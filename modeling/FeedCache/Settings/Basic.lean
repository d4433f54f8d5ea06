/-
This file says what can be set, and what holds where nothing is set.
-/
import FeedCache.Store.Location

namespace FeedCache

/-- The settings of a run. Times are in milliseconds. -/
structure Settings where
  /-- The directory below which stores are kept; the home directory if there is none. -/
  basePath : Option String := none
  /-- The name of the hidden directory that holds the stores. -/
  namespaceName : String := Store.defaultNamespace
  userAgent : String := "feedgrab/0.1"
  /-- The time for one attempt with all its redirects. -/
  timeout : Nat := 15000
  /-- How many attempts are made when they time out. -/
  maxRetries : Nat := 4
  /-- How many requests are made in one attempt. -/
  maxRedirects : Nat := 5
  /-- The pause after an attempt that timed out. -/
  retryBackoff : Nat := 1000
  /-- The size of the largest body that is accepted. -/
  maxBytes : Nat := 5242880
  proxy : Option String := none
  httpProxy : Option String := none
  httpsProxy : Option String := none
  /-- The hosts that are reached without a proxy. -/
  noProxy : Option String := none
  deriving DecidableEq, Repr

namespace Settings

/-- The names under which settings are found, in alphabetical order. -/
inductive Field where
  | basePath
  | httpProxy
  | httpsProxy
  | maxBytes
  | maxRedirects
  | maxRetries
  | namespaceName
  | noProxy
  | proxy
  | retryBackoff
  | timeout
  | userAgent
  deriving DecidableEq, Repr

def Field.name : Field → String
  | .basePath => "base_path"
  | .httpProxy => "http_proxy"
  | .httpsProxy => "https_proxy"
  | .maxBytes => "max_bytes"
  | .maxRedirects => "max_redirects"
  | .maxRetries => "max_retries"
  | .namespaceName => "namespace"
  | .noProxy => "no_proxy"
  | .proxy => "proxy"
  | .retryBackoff => "retry_backoff_ms"
  | .timeout => "timeout_ms"
  | .userAgent => "user_agent"

/-- The base directory that is set, or the home directory. -/
def base (settings : Settings) (home : String) : String := settings.basePath.getD home

/-- The base directory as far as the home directory is known. -/
def base? (settings : Settings) (home : Option String) : Option String :=
  settings.basePath.or home

/-- The reasons why a session's store has no place. -/
inductive PlaceFault where
  | homeless
  | name (fault : Store.NameFault)
  deriving DecidableEq

/-- The place of a session's store. -/
def storePath (settings : Settings) (home : Option String) (session : String) :
    Except PlaceFault String :=
  match settings.base? home with
  | some base => (Store.path base settings.namespaceName session).mapError .name
  | none => .error .homeless

end Settings

end FeedCache
