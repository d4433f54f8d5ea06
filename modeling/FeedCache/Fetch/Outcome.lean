/-
This file says how a fetch can end.
-/
import FeedCache.Settings.Basic
import FeedCache.Store.Entries
import FeedCache.Url.Fetchable

namespace FeedCache.Fetch

/-- The budgets of a fetch. Times are in milliseconds. -/
structure Policy where
  /-- The time for one attempt with all its redirects. -/
  timeout : Nat
  /-- The number of attempts; at least one is made. -/
  maxRetries : Nat
  /-- The number of requests in one attempt. -/
  maxRedirects : Nat
  /-- The pause after an attempt that has timed out. -/
  retryBackoff : Nat
  deriving DecidableEq

def Policy.ofSettings (settings : Settings) : Policy :=
  ⟨settings.timeout, settings.maxRetries, settings.maxRedirects, settings.retryBackoff⟩

def Policy.attempts (policy : Policy) : Nat := max 1 policy.maxRetries

/-- The reasons why a fetch brings no body. -/
inductive Failure where
  | invalidUrl (rejection : Url.Rejection)
  | redirectLoop (limit : Nat)
  | missingLocation (status : Nat)
  | timedOut (attempts : Nat)
  | httpStatus (status : Nat)
  | tooLarge (length limit : Nat)
  | transport (detail : String)
  deriving DecidableEq

def Failure.message : Failure → String
  | .invalidUrl rejection => "invalid URL: " ++ rejection.message
  | .redirectLoop limit =>
      "followed " ++ toString limit ++ " redirects without reaching a response"
  | .missingLocation status =>
      "redirect status " ++ toString status ++ " without usable Location"
  | .timedOut attempts => "timed out after " ++ toString attempts ++ " attempts"
  | .httpStatus status => "HTTP status " ++ toString status
  | .tooLarge length limit =>
      "response too large: " ++ toString length ++ " bytes exceeds " ++ toString limit
  | .transport detail => "transport error: " ++ detail

/-- A page that was fetched, and how it was reached. -/
structure Page where
  /-- The URL that was asked for. -/
  url : Url
  /-- The URL that answered, after all redirects. -/
  finalUrl : Url
  status : Nat
  contentType : Option String
  /-- The body may be empty. -/
  body : ByteArray
  /-- The number of attempts, with the successful one. -/
  attempts : Nat
  /-- The number of redirects that the successful attempt followed. -/
  redirects : Nat
  deriving DecidableEq

inductive Outcome where
  | fetched (page : Page)
  | failed (failure : Failure)
  deriving DecidableEq

/-- What is stored for an outcome: the body, or the mark of a failure. -/
def Outcome.payload : Outcome → Store.Payload
  | .fetched page => .body page.body
  | .failed _ => .failed

end FeedCache.Fetch
