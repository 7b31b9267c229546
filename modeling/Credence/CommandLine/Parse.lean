/-
From a command line to what it asks for.
-/
import Credence.CommandLine.Scan

namespace Credence.CommandLine

/-- The command that explains the others. -/
def helpCommand : String := "help"

/-- What can be given in front of a command. -/
def topGrammar : Grammar where
  letter?
    | 'v' => some .verbose
    | 'q' => some .quiet
    | 'f' => some .format
    | 'h' => some .help
    | 'V' => some .version
    | _ => none
  word?
    | "verbose" => some .verbose
    | "quiet" => some .quiet
    | "format" => some .format
    | "pretty" => some .pretty
    | "help" => some .help
    | "version" => some .version
    | _ => none
  position? _ := none
  commands := [Action.train.name, Action.predict.name, helpCommand]

/-- What can be given behind a command. -/
def actionGrammar (a : Action) : Grammar where
  letter?
    | 'm' => some .kind
    | 'c' => some .settings
    | 'p' => if a = .train then some .text else none
    | 'h' => some .help
    | _ => none
  word?
    | "model" => some .kind
    | "config" => some .settings
    | "seed" => some .seed
    | "max-samples" => some .maxSamples
    | "predict" => if a = .train then some .text else none
    | "help" => some .help
    | _ => none
  position?
    | 0 => some .data
    | _ => if a = .predict then some .text else none
  commands := []

/-- Read what follows a command. -/
def parseAction (a : Action) (args : List String) : Except UsageError Draft := do
  let (s, _) ← Scan.takeAll (actionGrammar a) args .start
  let s ← s.settle
  if s.draft.data.isNone || (a = .predict && s.draft.texts.isEmpty) then
    throw .missingArgument
  return s.draft

/-- What follows the command for help: one command at most. -/
def parseHelp : List String → UsageError
  | [] => .help
  | [name] => if topGrammar.commands.contains name then .help else .unknownCommand
  | _ => .unknownCommand

/-- Read a command line.  What follows the command is checked before the last
thing in front of it. -/
def parse (args : List String) : Except UsageError Arguments := do
  let (s, command) ← Scan.takeAll topGrammar args .start
  match command with
  | none =>
      let s ← s.settle
      throw (if s.draft = .empty then .nothingGiven else .missingCommand)
  | some (name, rest) =>
      match Action.ofName? name with
      | none => throw (parseHelp rest)
      | some action =>
          let draft ← parseAction action rest
          let s ← s.settle
          return {
            action
            training := ← draft.training
            texts := draft.texts
            display := s.draft.display }

end Credence.CommandLine
