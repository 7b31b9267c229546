/-
Pipelines: records are loaded, a model is trained on some of them and scored on
the others, and then texts are classified.  An action may fail halfway; what it
has written up to then stays written.
-/
import Credence.Pipeline.Training

namespace Credence

/-- The milestones in the life of a pipeline. -/
inductive Milestone where
  | idle
  | loaded
  | fitted
  | evaluated
deriving DecidableEq, Repr

def Milestone.name : Milestone → String
  | idle => "idle"
  | loaded => "data_loaded"
  | fitted => "fitted"
  | evaluated => "evaluated"

/-- How far a pipeline has come, and what it holds there. -/
structure Stage where
  milestone : Milestone
  /-- The texts of the records in use. -/
  texts : List String
  /-- The codes of the classes that their labels name. -/
  codes : List Nat
  /-- What the last training left behind, if anything. -/
  trained? : Option Trained
  /-- The last report on the model in use, if any. -/
  report? : Option TrainingReport

namespace Stage

def start : Stage := ⟨.idle, [], [], none, none⟩

def name (s : Stage) : String := s.milestone.name

end Stage

/-- A kind of model with settings that hold, and how far it has come. -/
structure Pipeline where
  kind : ModelKind
  settings : Settings
  valid : settings.problem? = none
  stage : Stage

namespace Pipeline

/-- Something that reads and writes a pipeline and that may fail. -/
abbrev Action (α : Type) := ExceptT Error (StateM Pipeline) α

/-- What an action yields, and what it makes of a pipeline. -/
def act (p : Pipeline) (a : Action α) : Except Error α × Pipeline := a.run.run p

section act

variable (p : Pipeline)

@[simp] theorem act_pure (x : α) : p.act (pure x) = (.ok x, p) := rfl

@[simp] theorem act_throw (e : Error) :
    p.act (throw e : Action α) = (.error e, p) := rfl

@[simp] theorem act_lift (x : Except Error α) :
    p.act (liftM x) = (x, p) := rfl

@[simp] theorem act_get : p.act get = (.ok p, p) := rfl

@[simp] theorem act_set (next : Pipeline) :
    p.act (set next) = (.ok ⟨⟩, next) := rfl

@[simp] theorem act_modify (f : Pipeline → Pipeline) :
    p.act (modify f) = (.ok ⟨⟩, f p) := rfl

/-- A failure ends an action, and the pipeline stays as it is by then. -/
@[simp] theorem act_bind (a : Action α) (f : α → Action β) :
    p.act (a >>= f) =
      match p.act a with
      | (.ok x, next) => next.act (f x)
      | (.error e, next) => (.error e, next) := by
  change (let (x, next) := p.act a; ExceptT.bindCont f x next) = _
  rcases p.act a with ⟨e | x, next⟩
  · rfl
  · rfl

@[simp] theorem act_map (f : α → β) (a : Action α) :
    p.act (f <$> a) = ((p.act a).1.map f, (p.act a).2) := by
  rw [map_eq_pure_bind, act_bind]
  rcases p.act a with ⟨e | x, next⟩
  · rfl
  · rfl

end act

/-- Like `act`, but a pipeline on which the action fails is given up. -/
def attempt (p : Pipeline) (a : Action α) : Except Error (α × Pipeline) :=
  match p.act a with
  | (.ok x, next) => .ok (x, next)
  | (.error e, _) => .error e

/-- A pipeline at its beginning, if its settings hold. -/
def make (kind : ModelKind) (settings : Settings) : Except Error Pipeline :=
  match valid : settings.problem? with
  | none => .ok ⟨kind, settings, valid, .start⟩
  | some problem => .error (.badSetting problem)

def recordCount (p : Pipeline) : Nat := p.stage.codes.length

def vocabularySize? (p : Pipeline) : Option Nat :=
  p.stage.trained?.map (·.vectorizer.table.vocabulary.size)

/-- Take the records that can be used, in place of all earlier ones. -/
def load (records : List Record) : Action LoadSummary := do
  let (kept, dropped) := keep (← get).settings.labels records
  if kept.isEmpty then throw (.allDropped dropped)
  modify fun p => { p with
    stage.texts := kept.map (·.1)
    stage.codes := kept.map (·.2.code)
    stage.trained? := none
    stage.report? := none
    stage.milestone := .loaded }
  return ⟨kept.length, dropped⟩

/-- Train a model on the records in use.  The other seed counts if the settings
have none. -/
def fit (fallback : UInt64) : Action TrainingSummary := do
  let p ← get
  if p.stage.milestone = .idle then throw .noRecords
  let trained ← Trained.learn p.kind p.settings (p.settings.words fallback)
    p.stage.texts p.stage.codes
  modify fun p => { p with
    stage.trained? := some trained
    stage.report? := none
    stage.milestone := .fitted }
  return trained.summary

/-- Score the model on the records it has not learnt from. -/
def evaluate : Action TrainingReport := do
  let p ← get
  if p.stage.milestone = .idle ∨ p.stage.milestone = .loaded then
    throw (.notFitted p.stage.name)
  let some trained := p.stage.trained? | throw .missingModel
  let report ← trained.report
  modify fun p => { p with
    stage.report? := some report
    stage.milestone := .evaluated }
  return report

/-- Load, train and score, one after the other. -/
def cycle (fallback : UInt64) (records : List Record) :
    Action TrainingReport := do
  let _ ← load records
  let _ ← fit fallback
  evaluate

/-- Go through a cycle with a new pipeline of the same kind, which replaces the old
one if nothing fails. -/
def train (fallback : UInt64) (records : List Record) :
    Action TrainingReport := do
  let p ← get
  let next ← make p.kind p.settings
  let (report, next) ← next.attempt (cycle fallback records)
  set next
  return report

def predict (p : Pipeline) (text : String) : Except Error String :=
  match p.stage.trained? with
  | none => .error (.untrained p.kind.name)
  | some trained =>
      if Text.isBlankText text then .error .blankQuery
      else do return p.settings.labels.decode (← trained.classify text)

def predictAll (p : Pipeline) (texts : List String) :
    Except Error (List String) :=
  texts.mapM p.predict

end Pipeline

end Credence
