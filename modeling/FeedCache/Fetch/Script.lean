/-
This file answers requests from a script.
-/
import FeedCache.Fetch.Transport

namespace FeedCache.Fetch

/-- A script holds the replies to each URL, by its text. -/
abbrev Script := List (String × List Reply)

namespace Script

/-- A request that no reply is written for. -/
def unanswered : Reply := { result := .error (.other "no route") }

/-- The part of the script for a URL that has none of its own. -/
def anyUrl : String := "*"

def partFor (script : Script) (url : Url) : String :=
  if (script.lookup url.toString).isSome then url.toString else anyUrl

/-- The first reply of a part is used up, unless it is the last one. -/
def take (script : Script) (part : String) : Reply × Script :=
  match script.lookup part with
  | none | some [] => (unanswered, script)
  | some [reply] => (reply, script)
  | some (reply :: rest) =>
      (reply, script.map fun entry => if entry.1 = part then (part, rest) else entry)

/-- The reply to a URL is the next one of its part. -/
def answer : Transport Script := fun script url => script.take (script.partFor url)

end Script

end FeedCache.Fetch
