/-
Going through a command line from left to right.  What was given last stays
pending, since its value may still come; it is settled as soon as something else
begins.
-/
import Credence.CommandLine.Draft

namespace Credence.CommandLine

/-- What can be given at one level of a command line. -/
structure Grammar where
  letter? : Char → Option Slot
  word? : String → Option Slot
  /-- What the arguments without a name stand for, by their number. -/
  position? : Nat → Option Slot
  /-- The commands that may follow. -/
  commands : List String

/-- What is known in the middle of a command line. -/
structure Scan where
  draft : Draft
  /-- What was given last, with its value if that has come. -/
  pending : Option (Slot × Option String)
  /-- The number of arguments without a name. -/
  positions : Nat

namespace Scan

def start : Scan := ⟨.empty, none, 0⟩

/-- Check what is pending. -/
def settle (s : Scan) : Except UsageError Scan :=
  match s.pending with
  | none => .ok s
  | some (_, none) => .error .invalidValue
  | some (slot, some value) => do
      return { s with draft := ← s.draft.addValue slot value, pending := none }

/-- Whether the next argument may be a value. -/
def awaitsValue (s : Scan) : Bool :=
  match s.pending with
  | some (_, none) => true
  | _ => false

def takeFlag (s : Scan) (slot : Slot) : Except UsageError Scan := do
  let s ← s.settle
  return { s with draft := ← s.draft.addFlag slot }

/-- Take something with the value attached to it. -/
def takeAttached (s : Scan) (slot : Slot) (value : String) :
    Except UsageError Scan := do
  let s ← s.settle
  return { s with draft := ← s.draft.addValue slot value }

/-- Take something whose value is still to come. -/
def takeBare (s : Scan) (slot : Slot) : Except UsageError Scan := do
  return { ← s.settle with pending := some (slot, none) }

/-- Take one or more letters behind a single hyphen.  The first letter that takes
a value takes all that is left, perhaps behind an equals sign. -/
def takeLetters (g : Grammar) : List Char → Scan → Except UsageError Scan
  | [], s => .ok s
  | c :: rest, s =>
      match g.letter? c with
      | none => .error .unknownArgument
      | some slot =>
          if slot.takesValue then
            match rest with
            | [] => s.takeBare slot
            | '=' :: value => s.takeAttached slot (String.ofList value)
            | value => s.takeAttached slot (String.ofList value)
          else do takeLetters g rest (← s.takeFlag slot)

/-- Take a word behind two hyphens, perhaps with a value behind an equals sign. -/
def takeWord (g : Grammar) (body : List Char) (s : Scan) :
    Except UsageError Scan :=
  let name := String.ofList (body.takeWhile (· != '='))
  match g.word? name, body.dropWhile (· != '=') with
  | none, _ => .error .unknownArgument
  | some slot, [] =>
      if slot.takesValue then s.takeBare slot else s.takeFlag slot
  | some slot, _ :: value =>
      if slot.takesValue then s.takeAttached slot (String.ofList value)
      else .error .needlessValue

/-- The error for an argument too many.  Behind a double hyphen the name of a
command is no command. -/
def surplus (g : Grammar) (ended : Bool) (arg : String) : UsageError :=
  if g.commands.isEmpty then .unknownArgument
  else if ended && g.commands.contains arg then .unknownArgument
  else .unknownCommand

/-- Take an argument without a name. -/
def takePosition (g : Grammar) (ended : Bool) (arg : String) (s : Scan) :
    Except UsageError Scan :=
  match g.position? s.positions with
  | none => .error (surplus g ended arg)
  | some slot => do
      let s ← s.settle
      return { s with
        pending := some (slot, some arg), positions := s.positions + 1 }

/-- Take an argument in front of any double hyphen. -/
def takeArgument (g : Grammar) (arg : String) (s : Scan) :
    Except UsageError Scan :=
  match arg.toList with
  | '-' :: '-' :: body => takeWord g body s
  | '-' :: c :: letters => takeLetters g (c :: letters) s
  | _ =>
      match s.pending with
      | some (slot, none) => .ok { s with pending := some (slot, some arg) }
      | _ => takePosition g false arg s

/-- Take arguments up to the end, or up to a command with what follows it. -/
def takeAll (g : Grammar) : List String → Scan →
    Except UsageError (Scan × Option (String × List String))
  | [], s => .ok (s, none)
  | arg :: rest, s =>
      if g.commands.contains arg && !s.awaitsValue then
        .ok (s, some (arg, rest))
      else if arg = "--" then do
        return (← rest.foldlM (fun s arg => takePosition g true arg s) s, none)
      else do takeAll g rest (← takeArgument g arg s)

end Scan

end Credence.CommandLine
