/-
Carrying out what a command line asks for.
-/
import Credence.CommandLine.Options
import Credence.Json.Writer
import Credence.Pipeline
import Credence.Report.Json
import Credence.Report.Text
import Credence.Settings.Json

namespace Credence.CommandLine

/-- A failure, and what was being done when it occurred. -/
structure Failure where
  context : Option String
  cause : Error
deriving DecidableEq

/-- The lines that explain a failure, from the outside to the inside. -/
def Failure.lines (f : Failure) : List String :=
  f.context.toList ++ [f.cause.message]

/-- Say what was being done when something failed. -/
def within (context : String) : Except Error α → Except Failure α
  | .ok x => .ok x
  | .error e => .error ⟨some context, e⟩

/-- A failure that speaks for itself. -/
def plainly : Except Error α → Except Failure α
  | .ok x => .ok x
  | .error e => .error ⟨none, e⟩

/-- The texts of the files that can be read. -/
abbrev Files := String → Option String

def contents (files : Files) (path : String) : Except Error String :=
  match files path with
  | some text => .ok text
  | none => .error .unreadable

/-- The settings from a file, or the standard ones, with the seed and the limit
of the command line. -/
def loadSettings (files : Files) (o : TrainingOptions) :
    Except Failure Settings := do
  let settings ←
    match o.settings with
    | none => pure Settings.standard
    | some path =>
        within ("failed to load config from " ++ path)
          (contents files path >>= Settings.read)
  let settings := settings.override o.seed o.maxSamples
  plainly (checked settings.problem? settings)

/-- A pipeline with the records of the data file. -/
def prepare (files : Files) (o : TrainingOptions) :
    Except Failure (LoadSummary × Pipeline) := do
  let settings ← loadSettings files o
  let records ← within ("failed to read records from " ++ o.data)
    (contents files o.data >>= Record.readAll)
  let p ← plainly (Pipeline.make o.kind settings)
  plainly (p.attempt (Pipeline.load records))

def classify (p : Pipeline) (text : String) : Except Failure Prediction := do
  let label ← within ("failed to classify '" ++ text ++ "'") (p.predict text)
  return ⟨text, label⟩

/-- What a command has to say. -/
inductive Outcome where
  | trained (output : TrainingOutput)
  | predicted (output : PredictionOutput)
deriving DecidableEq

/-- Carry out a command.  The seed counts if the settings name none. -/
def execute (files : Files) (fallback : UInt64) (a : Arguments) :
    Except Failure Outcome := do
  let (loaded, p) ← prepare files a.training
  let (_, p) ← within "training failed" (p.attempt (Pipeline.fit fallback))
  match a.action with
  | .train =>
      let (report, p) ← within "evaluation failed" (p.attempt Pipeline.evaluate)
      let predictions ← a.texts.mapM (classify p)
      return .trained ⟨loaded, report, predictions⟩
  | .predict =>
      let predictions ← a.texts.mapM (classify p)
      return .predicted ⟨loaded, p.kind.name, predictions⟩

def renderJson (pretty : Bool) (j : Json) : String :=
  j.write (if pretty then .indented else .compact) ++ "\n"

def Outcome.render (d : DisplayOptions) (t : Timing) : Outcome → String
  | trained o =>
      match d.format with
      | .json => renderJson d.pretty (o.toJson t)
      | .human => o.render t.milliseconds d.verbosity
  | predicted o =>
      match d.format with
      | .json => renderJson d.pretty o.toJson
      | .human => o.render d.verbosity

end Credence.CommandLine
