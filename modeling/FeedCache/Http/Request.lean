/-
This file says what a request is and how it is written.
-/
import FeedCache.Http.Proxy
import FeedCache.Text.Base64

namespace FeedCache.Http

/-- The way of a request to its host. Through a proxy, one for HTTPS goes in a tunnel. -/
inductive Route where
  | direct
  | through (proxy : Proxy)
  | tunnel (proxy : Proxy)
  deriving DecidableEq

/-- What is asked for, by whom, and on which way. -/
structure Request where
  url : Url
  route : Route
  userAgent : String
  deriving DecidableEq

/-- The user of a URL is sent apart from it. A name that stands for no text stays in the URL
with its password, and so does a password that stands for none without a name. -/
def withoutSentUser (url : Url) : Url :=
  match Url.percentDecodedText url.username with
  | none => url
  | some username =>
      if username.isEmpty && (url.password.bind Url.percentDecodedText).isNone then url
      else url.withoutCredentials

/-- The user name and the password of a URL, as far as they are sent. -/
def credentials? (url : Url) : Option String :=
  if withoutSentUser url = url then none
  else
    let read (text : List Char) : List Char := (Url.percentDecodedText text).getD []
    let user := read url.username ++ ':' :: read (url.password.getD [])
    some ("Basic " ++ String.ofList (Text.toBase64 (String.ofList user).toUTF8.toList))

def portOf (url : Url) : UInt16 := url.port.getD url.scheme.defaultPort

/-- The first line of a request: its method and what it asks for. -/
def Request.line (request : Request) : String :=
  let url := withoutSentUser request.url
  match request.route with
  | .direct => "GET " ++ String.ofList (Url.pathText url.path ++ url.queryText)
  | .through _ => "GET " ++ url.toString
  | .tunnel _ => "CONNECT " ++ String.ofList (url.host.toList ++ ':' ::
      (toString (portOf url).toNat).toList)

/-- The kinds of content that are asked for. -/
def accepted : String :=
  "text/html,application/xhtml+xml,application/rss+xml,application/xml;q=0.9,*/*;q=0.8"

/-- The URL of a proxy, if it is one of the web. -/
def Proxy.url? (proxy : Proxy) : Option Url :=
  match proxy.target with
  | .web url => some url
  | .other _ _ => none

def Route.proxy? : Route → Option Proxy
  | .direct => none
  | .through proxy | .tunnel proxy => some proxy

/-- The fields of a request. -/
def Request.fields (request : Request) : List (String × String) :=
  let url := request.url
  [("accept", accepted), ("user-agent", request.userAgent),
    ("host", String.ofList (url.host.toList ++ url.portText))] ++
    ((credentials? url).map fun text => ("authorization", text)).toList ++
    (((request.route.proxy?.bind Proxy.url?).bind credentials?).map fun text =>
      ("proxy-authorization", text)).toList

/-- A request as it goes over the wire. The connection is not used again. -/
def Request.bytes (request : Request) : ByteArray :=
  let lines := (request.line ++ " HTTP/1.1") ::
    ((request.fields ++ [("connection", "close")]).map fun (name, value) => name ++ ": " ++ value)
  ("\r\n".intercalate lines ++ "\r\n\r\n").toUTF8

end FeedCache.Http
