/-
Runs of a registry: one request after the other, each with its response.
-/
import Credence.Pipeline.Run
import Credence.Registry

namespace Credence

namespace Registry

/-- Something to ask of a registry.  What is drawn at random on the way is part of
it: the id of a new session, and a seed for settings that have none. -/
inductive Request where
  | openSession (id : SessionId) (kind : ModelKind) (settings : Settings)
  | get (id : SessionId)
  | train (id : SessionId) (fallback : UInt64) (records : List Record)
  | predict (id : SessionId) (text : String)
  | closeSession (id : SessionId)
  | size
  | ids

/-- What a registry says to a request when it succeeds. -/
inductive Response where
  | opened (id : SessionId)
  | found (p : Pipeline)
  /-- The pipeline of a session has answered. -/
  | answered (answer : Pipeline.Answer)
  | closed
  | count (n : Nat)
  | list (ids : List SessionId)

def perform (r : Registry) : Request → Except Error Response × Registry
  | .openSession id kind settings =>
      (r.openSession id kind settings).map (·.map .opened) fun next => next
  | .get id => ((r.get id).map .found, r)
  | .train id fallback records =>
      (r.train id fallback records).map (·.map fun report =>
        .answered (.scored report)) fun next => next
  | .predict id text =>
      ((r.predict id text).map fun label => .answered (.label label), r)
  | .closeSession id =>
      (r.closeSession id).map (·.map fun _ => .closed) fun next => next
  | .size => (.ok (.count r.size), r)
  | .ids => (.ok (.list r.ids), r)

def run (r : Registry) :
    List Request → List (Except Error Response) × Registry
  | [] => ([], r)
  | request :: requests =>
      let (response, r) := r.perform request
      let (responses, r) := r.run requests
      (response :: responses, r)

end Registry

end Credence
