/-
A registry of sessions.  Every session has a pipeline of its own, and what is
done in one session is not seen in any other.
-/
import Credence.Pipeline
import Credence.Registry.SessionId

namespace Credence

/-- Pipelines under the ids of their sessions, in ascending order of the ids. -/
structure Registry where
  sessions : List (SessionId × Pipeline)

namespace Registry

def empty : Registry := ⟨[]⟩

/-- Put a pipeline under an id, in place of an earlier one. -/
def insertInto (id : SessionId) (p : Pipeline) :
    List (SessionId × Pipeline) → List (SessionId × Pipeline)
  | [] => [(id, p)]
  | (other, q) :: rest =>
      if id = other then (id, p) :: rest
      else if id.le other then (id, p) :: (other, q) :: rest
      else (other, q) :: insertInto id p rest

def insert (r : Registry) (id : SessionId) (p : Pipeline) : Registry :=
  ⟨insertInto id p r.sessions⟩

def get? (r : Registry) (id : SessionId) : Option Pipeline :=
  r.sessions.lookup id

/-- Take out what stands under an id, if there is anything. -/
def remove (r : Registry) (id : SessionId) : Option Pipeline × Registry :=
  (r.get? id, ⟨r.sessions.filter (·.1 ≠ id)⟩)

/-- Begin a session under a new id. -/
def openSession (r : Registry) (id : SessionId) (kind : ModelKind)
    (settings : Settings) : Except Error SessionId × Registry :=
  match Pipeline.make kind settings with
  | .ok p => (.ok id, r.insert id p)
  | .error e => (.error e, r)

def get (r : Registry) (id : SessionId) : Except Error Pipeline :=
  match r.get? id with
  | some p => .ok p
  | none => .error (.unknownSession id.text)

def closeSession (r : Registry) (id : SessionId) :
    Except Error Unit × Registry :=
  match r.remove id with
  | (some _, rest) => (.ok ⟨⟩, rest)
  | (none, rest) => (.error (.unknownSession id.text), rest)

def size (r : Registry) : Nat := r.sessions.length

/-- The ids of all sessions, in ascending order.  A session is put in at its place,
so there is nothing to sort. -/
def ids (r : Registry) : List SessionId := r.sessions.map (·.1)

/-- Load, train and score in a session.  What is written to its pipeline stays
there, also if that fails. -/
def train (r : Registry) (id : SessionId) (fallback : UInt64)
    (records : List Record) : Except Error TrainingReport × Registry :=
  match r.get id with
  | .ok p =>
      let (answer, next) := p.act (Pipeline.train fallback records)
      (answer, r.insert id next)
  | .error e => (.error e, r)

def predict (r : Registry) (id : SessionId) (text : String) :
    Except Error String := do
  (← r.get id).predict text

end Registry

end Credence
