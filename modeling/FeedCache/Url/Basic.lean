/-
This file says what a URL of the web is and how it is written.
-/
import FeedCache.Host.Basic
import FeedCache.Url.Path

namespace FeedCache

/-- The schemes that can be fetched. -/
inductive Scheme where
  | http
  | https
  deriving DecidableEq, Repr

def Scheme.toList : Scheme → List Char
  | .http => ['h', 't', 't', 'p']
  | .https => ['h', 't', 't', 'p', 's']

/-- A URL does not name the port that its scheme uses anyway. -/
def Scheme.defaultPort : Scheme → UInt16
  | .http => 80
  | .https => 443

/-- A URL that can be fetched has a scheme of the web, a host, and a path of segments below the
root. It has no fragment, since fragments are not sent. -/
structure Url where
  scheme : Scheme
  username : List Char
  password : Option (List Char)
  host : Host
  port : Option UInt16
  path : List (List Char)
  query : Option (List Char)
  deriving DecidableEq

namespace Url

/-- The user name and the password with their signs; nothing if there is neither. -/
def userInfoText (url : Url) : List Char :=
  match url.password with
  | some password => url.username ++ ':' :: (password ++ ['@'])
  | none => if url.username.isEmpty then [] else url.username ++ ['@']

def portText (url : Url) : List Char :=
  match url.port with
  | some port => ':' :: (toString port.toNat).toList
  | none => []

def queryText (url : Url) : List Char :=
  match url.query with
  | some query => '?' :: query
  | none => []

def toList (url : Url) : List Char :=
  url.scheme.toList ++ ':' :: '/' :: '/' ::
    (url.userInfoText ++ url.host.toList ++ url.portText ++ pathText url.path ++ url.queryText)

def toString (url : Url) : String := String.ofList url.toList

/-- The URL without its user name and password. -/
def withoutCredentials (url : Url) : Url := { url with username := [], password := none }

end Url

end FeedCache
