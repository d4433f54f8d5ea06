/-
This file sends requests over a wire and reads what comes back.

The settings decide what each request says of its sender, and whether it goes through a proxy.
-/
import FeedCache.Http.Bypass
import FeedCache.Http.Exchange
import FeedCache.Http.Request

namespace FeedCache.Http
open Fetch

/-- The reasons why there is no client for some settings. -/
inductive ClientFault where
  | invalidProxy (text : String)
  | invalidUserAgent
  deriving DecidableEq, Repr

def ClientFault.message : ClientFault → String
  | .invalidProxy text => "invalid proxy " ++ text ++ ": builder error"
  | .invalidUserAgent => "failed to build HTTP client: builder error"

structure Client where
  userAgent : String
  /-- The size of the largest body that is accepted. -/
  limit : Nat
  proxies : Proxies
  exemptions : List Exemption
  deriving DecidableEq

/-- No controls but the tab may stand in a field of a request. -/
def isFieldCharacter (c : Char) : Bool := c == '\t' || (0x20 ≤ c.toNat && c.toNat != 0x7F)

/-- The proxies are read first. -/
def Client.ofSettings (settings : Settings) : Except ClientFault Client := do
  let proxies ← (Proxies.ofSettings settings).mapError .invalidProxy
  if !settings.userAgent.toList.all isFieldCharacter then throw .invalidUserAgent
  return { userAgent := settings.userAgent
           limit := settings.maxBytes
           proxies
           exemptions := (settings.noProxy.map readExemptions).getD [] }

/-- The other schemes of proxies that are used. -/
def streamSchemes : List (List Char) :=
  ["socks4".toList, "socks4a".toList, "socks5".toList, "socks5h".toList]

def Proxy.isUsable (proxy : Proxy) : Bool :=
  match proxy.target with
  | .web _ => true
  | .other scheme _ => streamSchemes.contains scheme

/-- A host that is exempt is reached directly, and so is one whose proxy cannot be used. -/
def Client.route (client : Client) (url : Url) : Route :=
  if client.exemptions.any fun exemption => exemption.covers url.host then .direct
  else match (client.proxies.forScheme url.scheme).filter Proxy.isUsable with
    | none => .direct
    | some proxy =>
        match url.scheme with
        | .http => .through proxy
        | .https => .tunnel proxy

/-- A wire carries a request to its host and brings the exchange back, after a delay in
milliseconds. -/
abbrev Wire (State : Type) := State → Request → (Nat × Exchange) × State

/-- A wire on which no request is answered. -/
def deadWire : Wire Unit := fun state _ => ((0, .unanswered), state)

/-- The longest URL that is sent. -/
def longestUrl : Nat := 65534

/-- The characters that a host may hold but a request may not. -/
def isUnsendable (c : Char) : Bool := ['"', '\x60', '\x7b', '\x7d'].contains c

def isSendable (url : Url) : Bool :=
  url.toList.length ≤ longestUrl && !url.host.toList.any isUnsendable

/-- A URL that cannot be sent is refused before the wire is used. -/
def Client.transport {State : Type} (client : Client) (wire : Wire State) : Transport State :=
  fun state url =>
    let shown := withoutSentUser url
    if isSendable shown then
      let ((delay, exchange), next) := wire state ⟨url, client.route url, client.userAgent⟩
      (⟨delay, exchange.receive client.limit shown⟩, next)
    else (⟨0, .error (.other ("builder error for url (" ++ shown.toString ++ ")"))⟩, state)

end FeedCache.Http
