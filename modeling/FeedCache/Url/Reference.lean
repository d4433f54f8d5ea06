/-
This file reads references: texts that name a URL, alone or seen from another URL.
-/
import FeedCache.Text.Blank
import FeedCache.Url.Authority

namespace FeedCache.Url

/-- A reference names a URL of the web, or something of another scheme, with a host or without. -/
inductive Target where
  | web (url : Url)
  | other (scheme : List Char) (hasHost : Bool)
  deriving DecidableEq

/-- What a scheme says about the text after it. -/
inductive SchemeKind where
  | web (scheme : Scheme)
  | webLike
  | file
  | unknown
  deriving DecidableEq

def schemeKind (scheme : List Char) : SchemeKind :=
  if scheme = "http".toList then .web .http
  else if scheme = "https".toList then .web .https
  else if scheme = "ws".toList ∨ scheme = "wss".toList ∨ scheme = "ftp".toList then .webLike
  else if scheme = "file".toList then .file
  else .unknown

/-- Controls and spaces are dropped at the ends of a reference, tabs and line ends everywhere. -/
def clean (text : List Char) : List Char :=
  (Text.strip (fun c => c.toNat ≤ 0x20) text).filter
    fun c => c != '\t' && c != '\n' && c != '\r'

def isSchemeCharacter (c : Char) : Bool :=
  c.isAlphanum || c == '+' || c == '-' || c == '.'

/-- A scheme starts with a letter and ends at a colon. -/
def splitScheme : List Char → Option (List Char × List Char)
  | [] => none
  | first :: rest =>
      if first.isAlpha then
        match rest.dropWhile isSchemeCharacter with
        | ':' :: after =>
            some ((first :: rest.takeWhile isSchemeCharacter).map Char.toLower, after)
        | _ => none
      else none

/-- The query of a text that starts at the question mark, if it does. -/
def readQuery : List Char → Option (List Char)
  | [] => none
  | _ :: query => some (percentEncode isEncodedInQuery query)

/-- The path and the query that a text leads to from a directory. -/
def readPathAndQuery (directory : List (List Char)) (text : List Char) :
    List (List Char) × Option (List Char) :=
  (readPath directory (text.takeWhile (· != '?')), readQuery (text.dropWhile (· != '?')))

/-- A text after the slashes of a scheme: an authority, a path below the root, and a query. -/
def readWeb (scheme : Scheme) (text : List Char) : Except Fault Url :=
  let rest := text.dropWhile fun c => !endsAuthority c
  let below := match rest with
    | c :: after => if isSlash c then after else rest
    | [] => []
  let (path, query) := readPathAndQuery [] below
  ofAuthority scheme path query (text.takeWhile fun c => !endsAuthority c)

/-- A text without a scheme, seen from a URL. Two slashes start an authority, one slash a path
from the root, a question mark a query; all else starts beside the last segment. -/
def readRelative (base : Url) (text : List Char) : Except Fault Url :=
  match text with
  | [] => .ok base
  | '?' :: query => .ok { base with query := some (percentEncode isEncodedInQuery query) }
  | '/' :: '/' :: rest => readWeb base.scheme rest
  | first :: rest =>
      if isSlash first then
        if rest.head?.any isSlash then readWeb base.scheme (rest.dropWhile isSlash)
        else
          let (path, query) := readPathAndQuery [] rest
          .ok { base with path, query }
      else
        let (path, query) := readPathAndQuery base.path.dropLast text
        .ok { base with path, query }

/-- The host that stands for this machine; a file on it is written without a host. -/
def localName : List Char := "localhost".toList

/-- A file may name a host, which is checked. The answer is whether there is one. -/
def checkFile (text : List Char) : Except Fault Bool :=
  match text with
  | first :: second :: rest =>
      let host := rest.takeWhile fun c => !endsAuthority c
      if isSlash first && isSlash second && !host.isEmpty && !isDriveName host then
        (Host.read host).map fun host => host != .name localName
      else .ok false
  | _ => .ok false

/-- The host and the port of an unknown scheme are checked. A user needs a host, and an at sign
in front of a path, a query or a fragment needs a user. The answer is whether there is a host. -/
def checkUnknown (hasFragment : Bool) (text : List Char) : Except Fault Bool := do
  match text with
  | '/' :: '/' :: rest =>
      let authority := rest.takeWhile fun c => c != '/' && c != '?'
      let ended := hasFragment || authority.length < rest.length
      let (userInfo, hostAndPort) := match splitAtSign authority with
        | some (before, after) => (some before, after)
        | none => (none, authority)
      if userInfo == some [] && hostAndPort.isEmpty && ended then throw .emptyHost
      let (hostText, portText) := splitPort false hostAndPort
      Host.checkOpaque hostText
      if hostText.isEmpty && !portText.isEmpty then throw .emptyHost
      let _ ← readPort ((portText.drop 1).takeWhile (· != '\\'))
      let hasUser := match userInfo with
        | none => false
        | some user => !user.isEmpty && user != [':']
      if hostText.isEmpty && hasUser then throw .emptyHost
      return !hostText.isEmpty
  | _ => return false

/-- A reference without its fragment. From a URL, a scheme of the same kind may stand before a
text that is otherwise without one. -/
def readBody (base : Option Url) (hasFragment : Bool) (body : List Char) : Except Fault Target :=
  match splitScheme body with
  | none =>
      match base with
      | none => .error .relativeWithoutBase
      | some base => (readRelative base body).map .web
  | some (scheme, rest) =>
      let afterSlashes := rest.dropWhile isSlash
      match schemeKind scheme with
      | .web kind =>
          let sameScheme := base.filter fun base =>
            base.scheme = kind ∧ rest.length < afterSlashes.length + 2
          match sameScheme with
          | some base => (readRelative base rest).map .web
          | none => (readWeb kind afterSlashes).map .web
      | .webLike => (readWeb .http afterSlashes).map fun _ => .other scheme true
      | .file => (checkFile rest).map (.other scheme)
      | .unknown => (checkUnknown hasFragment rest).map (.other scheme)

/-- The target of a reference. -/
def readReference (base : Option Url) (text : List Char) : Except Fault Target :=
  let cleaned := clean text
  readBody base (cleaned.contains '#') (cleaned.takeWhile (· != '#'))

end FeedCache.Url
