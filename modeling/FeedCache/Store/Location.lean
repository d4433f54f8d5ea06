/-
This file derives the place of a store from the name of its session.

A store lies at `base/.namespace/session.db`.
-/
import FeedCache.Text.Blank
import FeedCache.Text.Quoted

namespace FeedCache.Store

/-- The reasons why a session name names no file. -/
inductive NameFault where
  | blank
  | reserved (name : String)
  | separator (name : String)
  deriving DecidableEq

def NameFault.message : NameFault → String
  | .blank => "session name must not be empty"
  | .reserved name => "reserved name: " ++ name
  | .separator name => Text.quote name ++ " contains a path separator"

/-- The characters that cannot be part of a file name. -/
def isSeparator (c : Char) : Bool := c == '/' || c == '\\' || c == '\x00'

/-- A session name is one file name that is not blank. -/
def checkName (name : String) : Except NameFault Unit :=
  if (Text.trim name.toList).isEmpty then .error .blank
  else if name = "." ∨ name = ".." then .error (.reserved name)
  else if name.toList.any isSeparator then .error (.separator name)
  else .ok ()

/-- A slash is put between two paths where the first one is not empty and does not end in one; a
second path that starts with a slash stands alone. -/
def joinPath (base rest : String) : String :=
  if rest.toList.head? = some '/' then rest
  else if base.isEmpty ∨ base.toList.getLast? = some '/' then base ++ rest
  else base ++ "/" ++ rest

def defaultNamespace : String := "feedgrab"

/-- The path of the session's store below the base directory. -/
def path (base namespaceName session : String) : Except NameFault String := do
  checkName session
  return joinPath (joinPath base ("." ++ namespaceName)) (session ++ ".db")

end FeedCache.Store
