/-
This file names the reasons why a command fails, and what a failure says to the user.
-/
import FeedCache.Fetch.Outcome
import FeedCache.Session.Fault
import FeedCache.Settings.Load

namespace FeedCache.Command

inductive Failure where
  | settings (fault : Settings.LoadFault)
  | session (fault : Session.Fault)
  | notFetched (url : String) (failure : Fetch.Failure)
  | noResult (url : String)
  | noPrimary (url : String) (failure : Fetch.Failure)
  | unreadableInput
  | notCreated (path : String) (fault : Disk.Fault)
  | notWritten (path : String) (fault : Disk.Fault)
  | unprintable
  deriving DecidableEq

def Failure.message : Failure → String
  | .settings fault => fault.message
  | .session fault => fault.message
  | .notFetched url failure => url ++ ": " ++ failure.message
  | .noResult url => "no result for " ++ url
  | .noPrimary url failure => "primary resource " ++ url ++ " unavailable: " ++ failure.message
  | .unreadableInput => "stream did not contain valid UTF-8"
  | .notCreated path _ => "creating " ++ path
  | .notWritten path _ => "writing " ++ path
  | .unprintable => "path contains invalid UTF-8 characters"

/-- The trouble with the disk that is behind a failure. -/
def Failure.cause? : Failure → Option Disk.Fault
  | .session (.store (.disk fault)) => some fault
  | .notCreated _ fault | .notWritten _ fault => some fault
  | _ => none

/-- The whole text of a failure. -/
def Failure.text (failure : Failure) : String :=
  "Error: " ++ failure.message ++ "\n" ++
    match failure.cause? with
    | some fault => "\nCaused by:\n    " ++ fault.message ++ "\n"
    | none => ""

end FeedCache.Command
