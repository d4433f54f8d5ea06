/-
This file keeps what came back for the requests of a run.

A run over a tape asks for one exchange after another. When the tape ends it names the request
that is missing, and the run can be repeated with one exchange more.
-/
import FeedCache.Http.Client

namespace FeedCache.Http

/-- The exchanges with their delays, and the first request that has none. -/
structure Tape where
  exchanges : List (Nat × Exchange)
  missing : Option Request := none

/-- The wire that plays a tape. Nothing is answered after the first missing request. -/
def Tape.wire : Wire Tape := fun tape request =>
  match tape.missing, tape.exchanges with
  | none, exchange :: rest => (exchange, { tape with exchanges := rest })
  | none, [] => ((0, .unanswered), { tape with missing := some request })
  | some _, _ => ((0, .unanswered), tape)

end FeedCache.Http
