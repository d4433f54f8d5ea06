/-
This file accepts the texts that name something to fetch.
-/
import FeedCache.Url.Reference

namespace FeedCache.Url

/-- The reasons why a text names nothing to fetch. -/
inductive Rejection where
  | empty
  | unsupportedScheme (scheme : String)
  | invalid (fault : Fault)
  deriving DecidableEq

def Rejection.message : Rejection → String
  | .empty => "empty URL"
  | .unsupportedScheme scheme => "unsupported scheme: " ++ scheme
  | .invalid fault => "invalid URL: " ++ fault.message

/-- Only targets on the web are fetched. -/
def Target.fetchable : Target → Except Rejection Url
  | .web url => .ok url
  | .other scheme _ => .error (.unsupportedScheme (String.ofList scheme))

/-- The URL that a text names, alone or seen from a URL. -/
def readFetchable (base : Option Url) (text : List Char) : Except Rejection Url :=
  let trimmed := Text.trim text
  if trimmed.isEmpty then .error .empty
  else match readReference base trimmed with
    | .ok target => target.fetchable
    | .error fault => .error (.invalid fault)

/-- The URL that a text names alone. -/
def parse (text : String) : Except Rejection Url := readFetchable none text.toList

/-- The URL that a redirect from a URL leads to. -/
def resolve (base : Url) (location : String) : Except Rejection Url :=
  readFetchable (some base) location.toList

end FeedCache.Url
