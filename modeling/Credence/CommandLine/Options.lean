/-
What a command line asks for, and the ways in which it can be wrong.
-/
import Credence.Classifier.Kind

namespace Credence.CommandLine

/-- Why a command line is not carried out. -/
inductive UsageError where
  /-- Help was asked for. -/
  | help
  /-- The version was asked for. -/
  | version
  /-- There is nothing on the command line. -/
  | nothingGiven
  | missingCommand
  | missingArgument
  | unknownCommand
  | unknownArgument
  /-- A value is missing, empty where it must not be, or not one of a few. -/
  | invalidValue
  /-- A value cannot be read. -/
  | unreadableValue
  /-- Something is given twice that may be given once. -/
  | givenTwice
  /-- Something that takes no value is given one. -/
  | needlessValue
deriving DecidableEq, Repr

/-- The form of the output. -/
inductive OutputFormat where
  | human
  | json
deriving DecidableEq, Repr

def OutputFormat.name : OutputFormat → String
  | human => "human"
  | json => "json"

def OutputFormat.ofName? : String → Option OutputFormat
  | "human" => some human
  | "json" => some json
  | _ => none

/-- How a model is to be trained. -/
structure TrainingOptions where
  data : String
  kind : ModelKind
  settings : Option String
  seed : Option UInt64
  maxSamples : Option Nat
deriving DecidableEq, Repr

/-- What is to be done. -/
inductive Action where
  /-- Train and score a model, then classify some more texts. -/
  | train
  /-- Train a model and classify texts. -/
  | predict
deriving DecidableEq, Repr

def Action.name : Action → String
  | train => "train"
  | predict => "predict"

def Action.ofName? : String → Option Action
  | "train" => some train
  | "predict" => some predict
  | _ => none

/-- How the outcome is to be shown. -/
structure DisplayOptions where
  verbose : Nat
  quiet : Bool
  format : OutputFormat
  pretty : Bool
deriving DecidableEq, Repr

/-- How much is to be said: nothing extra if quiet, something by default, and
more with every request for it. -/
def DisplayOptions.verbosity (d : DisplayOptions) : Nat :=
  if d.quiet then 0 else max d.verbose 1

/-- Everything that a command line asks for. -/
structure Arguments where
  action : Action
  training : TrainingOptions
  texts : List String
  display : DisplayOptions
deriving DecidableEq, Repr

end Credence.CommandLine
