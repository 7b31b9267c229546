/-
The program: read the command line and the files it names, and print what there
is to say.
-/
import Credence.CommandLine.Execute
import Credence.CommandLine.Parse
import Std.Time.DateTime.Timestamp

namespace Credence.CommandLine

def programVersion : String := "veracity 0.1.0"

def usage : String :=
  "Train TF-IDF text classifiers on labelled real/fake data\n\n"
    ++ "Usage: veracity [OPTIONS] <COMMAND>\n\n"
    ++ "Commands:\n"
    ++ "  train    Train a model and report test metrics\n"
    ++ "  predict  Train a model and classify the given texts\n"
    ++ "  help     Print this message\n\n"
    ++ "Options:\n"
    ++ "  -v, --verbose          Say more; may be repeated\n"
    ++ "  -q, --quiet            Say less\n"
    ++ "  -f, --format <FORMAT>  human or json\n"
    ++ "      --pretty           Spread JSON over lines\n"
    ++ "  -h, --help             Print help\n"
    ++ "  -V, --version          Print version\n\n"
    ++ "Behind train or predict:\n"
    ++ "  <DATA_FILE>                Labelled records in JSON\n"
    ++ "  -m, --model <MODEL>        "
    ++ String.intercalate ", " (ModelKind.all.map (·.name)) ++ "\n"
    ++ "  -c, --config <FILE>        Settings in JSON\n"
    ++ "      --seed <SEED>          Seed for the split\n"
    ++ "      --max-samples <COUNT>  Use at most this many records\n"
    ++ "  -p, --predict <TEXT>       Text to classify after training\n"

def UsageError.message : UsageError → String
  | help | version | nothingGiven => ""
  | missingCommand => "a command is missing"
  | missingArgument => "a required argument is missing"
  | unknownCommand => "there is no such command"
  | unknownArgument => "there is no such argument"
  | invalidValue => "a value is missing or invalid"
  | unreadableValue => "a value cannot be read"
  | givenTwice => "an argument is given more than once"
  | needlessValue => "an option that takes no value is given one"

/-- Answer a command line that is not carried out. -/
def answerUsage (e : UsageError) : IO UInt32 := do
  match e with
  | .help => IO.print usage; return 0
  | .version => IO.println programVersion; return 0
  | .nothingGiven => IO.eprint usage; return 2
  | e => IO.eprint ("error: " ++ e.message ++ "\n\n" ++ usage); return 2

/-- The text of a file, if it can be read. -/
def fetch (path : String) : IO (String × Option String) := do
  try return (path, some (← IO.FS.readFile path))
  catch _ => return (path, none)

/-- The files that a command needs. -/
def fetchAll (o : TrainingOptions) : IO Files := do
  let fetched ← (o.settings.toList ++ [o.data]).mapM fetch
  return fun path => (fetched.lookup path).join

/-- The nanoseconds since the beginning of the year 1970. -/
def clock : IO Nat := do
  return (← Std.Time.Timestamp.now).toNanosecondsSinceUnixEpoch.toInt.toNat

/-- Carry out what a command line asks for. -/
def perform (a : Arguments) : IO UInt32 := do
  let files ← fetchAll a.training
  let started ← clock
  match execute files (UInt64.ofNat started) a with
  | .ok outcome =>
      let finished ← clock
      let timing : Timing :=
        ⟨(finished - started) / 1000000, .ofNanoseconds finished⟩
      IO.print (outcome.render a.display timing)
      return 0
  | .error failure =>
      IO.eprintln ("Error: " ++ String.intercalate ": " failure.lines)
      return 1

end Credence.CommandLine

/-- Read a command line and carry it out. -/
def main (args : List String) : IO UInt32 :=
  match Credence.CommandLine.parse args with
  | .ok arguments => Credence.CommandLine.perform arguments
  | .error e => Credence.CommandLine.answerUsage e
