/-
This file names what can go wrong with a session.

Trouble on the network is none of it: a fetch that fails is an outcome.
-/
import FeedCache.Http.Client
import FeedCache.Store.Fault
import FeedCache.Store.Location

namespace FeedCache.Session

inductive Fault where
  | homeless
  | name (fault : Store.NameFault)
  | client (fault : Http.ClientFault)
  | store (fault : Store.Fault)
  | closed (session : String)
  deriving DecidableEq

/-- A store that has no place belongs to no session. -/
def Fault.ofPlace : Settings.PlaceFault → Fault
  | .homeless => .homeless
  | .name fault => .name fault

def Fault.message : Fault → String
  | .homeless => "INVALID_INPUT: cannot determine home directory"
  | .name fault => "INVALID_SESSION: " ++ fault.message
  | .client fault => "HTTP_CLIENT: " ++ fault.message
  | .store fault => fault.message
  | .closed session => "SESSION_CLOSED: " ++ session

end FeedCache.Session
