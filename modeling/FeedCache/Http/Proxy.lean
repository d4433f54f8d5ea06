/-
This file reads the proxies of the settings.
-/
import FeedCache.Settings.Basic
import FeedCache.Url.Reference

namespace FeedCache.Http

/-- A proxy stands between the client and the hosts. One of an unknown scheme is not used. -/
structure Proxy where
  /-- The proxy as it was written. -/
  text : String
  target : Url.Target
  deriving DecidableEq

/-- A text names a proxy if it is a URL with a host. -/
def hostTarget? (text : List Char) : Option Url.Target :=
  match Url.readReference none text with
  | .ok (.web url) => some (.web url)
  | .ok (.other scheme hasHost) => if hasHost then some (.other scheme hasHost) else none
  | .error _ => none

/-- A text without a scheme or a host may still name a proxy, one for HTTP. -/
def lacksScheme (text : List Char) : Bool :=
  match Url.readReference none text with
  | .ok _ => true
  | .error fault => fault == .relativeWithoutBase

def Proxy.read? (text : String) : Option Proxy :=
  let alone := hostTarget? text.toList
  let target := if alone.isNone && lacksScheme text.toList then
      hostTarget? ("http://".toList ++ text.toList)
    else alone
  target.map fun target => ⟨text, target⟩

/-- The proxies of a client, and the URLs that each one is for. -/
structure Proxies where
  all : Option Proxy := none
  http : Option Proxy := none
  https : Option Proxy := none
  deriving DecidableEq

/-- A proxy that is set must be one; its text is the fault otherwise. -/
def readProxy (text : Option String) : Except String (Option Proxy) :=
  match text with
  | none => .ok none
  | some text =>
      match Proxy.read? text with
      | some proxy => .ok (some proxy)
      | none => .error text

/-- One proxy for everything leaves the others unread. -/
def Proxies.ofSettings (settings : Settings) : Except String Proxies := do
  match ← readProxy settings.proxy with
  | some proxy => return { all := some proxy }
  | none =>
      let http ← readProxy settings.httpProxy
      let https ← readProxy settings.httpsProxy
      return { http, https }

/-- The proxy for the URLs of a scheme. -/
def Proxies.forScheme (proxies : Proxies) : Scheme → Option Proxy
  | .http => proxies.all.or proxies.http
  | .https => proxies.all.or proxies.https

end FeedCache.Http
