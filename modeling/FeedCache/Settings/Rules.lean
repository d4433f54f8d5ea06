/-
This file holds the rules that settings must keep.
-/
import FeedCache.Settings.Basic

namespace FeedCache.Settings

/-- The ways to break a rule. -/
inductive Violation where
  | timeoutTooShort
  | timeoutTooLong
  | retriesOutOfRange
  | redirectsOutOfRange
  | backoffTooLong
  | noBytes
  | tooManyBytes
  | namespaceEmpty
  | namespaceSeparator
  | userAgentEmpty
  | proxyWithoutScheme
  | httpProxyWithoutScheme
  | httpsProxyWithoutScheme
  deriving DecidableEq, Repr

def Violation.field : Violation → Field
  | .timeoutTooShort => .timeout
  | .timeoutTooLong => .timeout
  | .retriesOutOfRange => .maxRetries
  | .redirectsOutOfRange => .maxRedirects
  | .backoffTooLong => .retryBackoff
  | .noBytes => .maxBytes
  | .tooManyBytes => .maxBytes
  | .namespaceEmpty => .namespaceName
  | .namespaceSeparator => .namespaceName
  | .userAgentEmpty => .userAgent
  | .proxyWithoutScheme => .proxy
  | .httpProxyWithoutScheme => .httpProxy
  | .httpsProxyWithoutScheme => .httpsProxy

def Violation.reason : Violation → String
  | .timeoutTooShort => "must be at least 100ms"
  | .timeoutTooLong => "must not exceed 5 minutes (300000ms)"
  | .retriesOutOfRange => "must be between 1 and 20"
  | .redirectsOutOfRange => "must be between 1 and 20"
  | .backoffTooLong => "must not exceed 60000ms"
  | .noBytes => "must be greater than 0"
  | .tooManyBytes => "must not exceed 50MB"
  | .namespaceEmpty => "must not be empty"
  | .namespaceSeparator => "must not contain path separators"
  | .userAgentEmpty => "must not be empty"
  | .proxyWithoutScheme => "must be a URL such as http://host:port"
  | .httpProxyWithoutScheme => "must be a URL such as http://host:port"
  | .httpsProxyWithoutScheme => "must be a URL such as http://host:port"

/-- The text has a colon and two slashes somewhere. -/
def hasScheme (text : List Char) : Bool :=
  match text with
  | ':' :: '/' :: '/' :: _ => true
  | _ :: rest => hasScheme rest
  | [] => false

def lacksScheme (proxy : Option String) : Bool := proxy.any fun text => !hasScheme text.toList

/-- The rules in the order in which they are checked, each with the test that breaks it. -/
def rules : List (Violation × (Settings → Bool)) :=
  [(.timeoutTooShort, fun settings => settings.timeout < 100),
    (.timeoutTooLong, fun settings => 300000 < settings.timeout),
    (.retriesOutOfRange, fun settings => settings.maxRetries < 1 || 20 < settings.maxRetries),
    (.redirectsOutOfRange, fun settings => settings.maxRedirects < 1 || 20 < settings.maxRedirects),
    (.backoffTooLong, fun settings => 60000 < settings.retryBackoff),
    (.noBytes, fun settings => settings.maxBytes == 0),
    (.tooManyBytes, fun settings => 52428800 < settings.maxBytes),
    (.namespaceEmpty, fun settings => settings.namespaceName.isEmpty),
    (.namespaceSeparator, fun settings => settings.namespaceName.toList.any Store.isSeparator),
    (.userAgentEmpty, fun settings => settings.userAgent.isEmpty),
    (.proxyWithoutScheme, fun settings => lacksScheme settings.proxy),
    (.httpProxyWithoutScheme, fun settings => lacksScheme settings.httpProxy),
    (.httpsProxyWithoutScheme, fun settings => lacksScheme settings.httpsProxy)]

/-- The first rule that the settings break. -/
def violation? (settings : Settings) : Option Violation :=
  (rules.find? fun rule => rule.2 settings).map Prod.fst

/-- Settings are valid if they break no rule. -/
def Valid (settings : Settings) : Prop := settings.violation? = none

instance (settings : Settings) : Decidable settings.Valid :=
  inferInstanceAs (Decidable (_ = _))

def Violation.message (violation : Violation) : String :=
  "invalid configuration: " ++ violation.field.name ++ " - " ++ violation.reason

end FeedCache.Settings
