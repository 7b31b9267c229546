/-
Arguments as they come in, one after the other.  A value is checked as soon as it
is complete.
-/
import Credence.CommandLine.Options
import Credence.Json.Numeral

namespace Credence.CommandLine

/-- Something that can be given on a command line. -/
inductive Slot where
  | verbose
  | quiet
  | format
  | pretty
  | help
  | version
  | data
  | kind
  | settings
  | seed
  | maxSamples
  | text
deriving DecidableEq, Repr

def Slot.takesValue : Slot → Bool
  | verbose | quiet | pretty | help | version => false
  | format | data | kind | settings | seed | maxSamples | text => true

/-- What is given so far. -/
structure Draft where
  verbose : Nat
  quiet : Bool
  format : Option OutputFormat
  pretty : Bool
  data : Option String
  kind : Option ModelKind
  settings : Option String
  seed : Option UInt64
  maxSamples : Option Nat
  texts : List String
deriving DecidableEq, Repr

namespace Draft

def empty : Draft :=
  ⟨0, false, none, false, none, none, none, none, none, []⟩

/-- Any number of requests for more output counts as this many at most. -/
def maxVerbose : Nat := 255

/-- A count in digits, perhaps behind a plus sign. -/
def readCount? (text : String) : Option Nat :=
  let digits :=
    match text.toList with
    | '+' :: rest => rest
    | s => s
  if digits.isEmpty || !digits.all Char.isDigit then none
  else
    let n := Numeral.ofDigits digits
    if n ≤ Number.maxCount then some n else none

/-- Fill a place that can be filled once. -/
def once (place : Option α) (value : Except UsageError α) :
    Except UsageError (Option α) :=
  match place with
  | some _ => .error .givenTwice
  | none => some <$> value

/-- A value that could be read. -/
def readable (value : Option α) : Except UsageError α :=
  match value with
  | some x => .ok x
  | none => .error .unreadableValue

/-- The path of a file, which must not be empty. -/
def path (text : String) : Except UsageError String :=
  if text.isEmpty then .error .invalidValue else .ok text

/-- The form of the output by its name. -/
def formatOf (text : String) : Except UsageError OutputFormat :=
  match OutputFormat.ofName? text with
  | some f => .ok f
  | none => .error .invalidValue

/-- Set a mark that can be set once. -/
def markOnce (mark : Bool) : Except UsageError Bool :=
  if mark then .error .givenTwice else .ok true

def addFlag (d : Draft) (slot : Slot) : Except UsageError Draft :=
  match slot with
  | .verbose => .ok { d with verbose := min (d.verbose + 1) maxVerbose }
  | .quiet => do return { d with quiet := ← markOnce d.quiet }
  | .pretty => do return { d with pretty := ← markOnce d.pretty }
  | .version => .error .version
  | _ => .error .help

def addValue (d : Draft) (slot : Slot) (value : String) :
    Except UsageError Draft :=
  match slot with
  | .format => do return { d with format := ← once d.format (formatOf value) }
  | .data => do return { d with data := ← once d.data (path value) }
  | .settings => do return { d with settings := ← once d.settings (path value) }
  | .kind => do
      let kind := readable (ModelKind.read value).toOption
      return { d with kind := ← once d.kind kind }
  | .seed => do
      let seed := readable ((readCount? value).map UInt64.ofNat)
      return { d with seed := ← once d.seed seed }
  | .maxSamples => do
      let count := readable (readCount? value)
      return { d with maxSamples := ← once d.maxSamples count }
  | .text => .ok { d with texts := d.texts ++ [value] }
  | _ => .error .needlessValue

/-- How the outcome is to be shown, with defaults for what is not given. -/
def display (d : Draft) : DisplayOptions :=
  ⟨d.verbose, d.quiet, d.format.getD .human, d.pretty⟩

/-- How a model is to be trained, with defaults for what is not given. -/
def training (d : Draft) : Except UsageError TrainingOptions :=
  match d.data with
  | some data =>
      .ok ⟨data, d.kind.getD .nearest, d.settings, d.seed, d.maxSamples⟩
  | none => .error .missingArgument

end Draft

end Credence.CommandLine
