/-
The kinds of classifiers and their names.
-/
import Credence.Error
import Credence.Text.CharClass
import Credence.Text.Lowercase

namespace Credence

/-- A kind of classifier. -/
inductive ModelKind where
  | nearest
  | logistic
  | forest
  | tree
deriving DecidableEq, Repr

namespace ModelKind

/-- Every kind, in the order in which they are listed for a user. -/
def all : List ModelKind := [nearest, logistic, forest, tree]

def name : ModelKind → String
  | nearest => "knn"
  | logistic => "logistic_regression"
  | forest => "random_forest"
  | tree => "decision_tree"

def ofName? (name : String) : Option ModelKind :=
  all.find? (·.name == name)

/-- The form in which names are compared: without outer blanks, in lower case,
and with an underscore for every hyphen. -/
def normalize (text : String) : String :=
  (Text.lowercase (Text.trim text)).map fun c => if c = '-' then '_' else c

/-- The kind that a user means. -/
def read (text : String) : Except Error ModelKind :=
  match ofName? (normalize text) with
  | some kind => .ok kind
  | none => .error (.badSetting (.unknownModel text (all.map name)))

end ModelKind

end Credence
