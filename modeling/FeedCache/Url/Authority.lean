/-
This file reads the part of a URL that names the user, the host and the port.
-/
import FeedCache.Url.Basic

namespace FeedCache.Url

/-- What stands before and after the last at sign. -/
def splitAtSign : List Char → Option (List Char × List Char)
  | [] => none
  | c :: rest =>
      match splitAtSign rest with
      | some (before, after) => some (c :: before, after)
      | none => if c = '@' then some ([], rest) else none

/-- The user name ends at the first colon; an empty password counts as none. -/
def readUserInfo (text : List Char) : List Char × Option (List Char) :=
  let username := percentEncode isEncodedInUserInfo (text.takeWhile (· != ':'))
  match (text.dropWhile (· != ':')).drop 1 with
  | [] => (username, none)
  | password => (username, some (percentEncode isEncodedInUserInfo password))

/-- The host ends at the first colon outside brackets. -/
def splitPort (inBrackets : Bool) : List Char → List Char × List Char
  | [] => ([], [])
  | c :: rest =>
      if c = ':' ∧ inBrackets = false then ([], c :: rest)
      else
        let (host, after) := splitPort (if c = '[' then true else if c = ']' then false
          else inBrackets) rest
        (c :: host, after)

def decimal (digits : List Char) : Nat :=
  digits.foldl (fun number c => number * 10 + (c.toNat - '0'.toNat)) 0

/-- A port is a number of sixteen bits; none is written after a colon that nothing follows. -/
def readPort (digits : List Char) : Except Fault (Option UInt16) :=
  if digits.isEmpty then .ok none
  else if digits.all Char.isDigit ∧ decimal digits ≤ 65535 then
    .ok (some (UInt16.ofNat (decimal digits)))
  else .error .invalidPort

/-- The authority ends where the path or the query starts. -/
def endsAuthority (c : Char) : Bool := isSlash c || c == '?'

/-- The URL that an authority names, with the path and the query that follow it. -/
def ofAuthority (scheme : Scheme) (path : List (List Char)) (query : Option (List Char))
    (authority : List Char) : Except Fault Url := do
  let (userInfo, hostAndPort) := (splitAtSign authority).getD ([], authority)
  let (username, password) := readUserInfo userInfo
  let (hostText, portText) := splitPort false hostAndPort
  if hostText.isEmpty then throw .emptyHost
  let host ← Host.read hostText
  let port ← readPort (portText.drop 1)
  return { scheme, username, password, host, path, query
           port := if port = some scheme.defaultPort then none else port }

end FeedCache.Url
