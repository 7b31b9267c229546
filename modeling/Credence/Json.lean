/-
JSON values.  Members of an object keep their order and may repeat a name.
-/
import Credence.Json.Numeral

namespace Credence

/-- A JSON value. -/
inductive Json where
  | null
  | bool (value : Bool)
  | num (value : Numeral)
  | str (value : String)
  | arr (items : List Json)
  | obj (members : List (String × Json))
  /-- A string, or an object with a name, that escapes half of a surrogate pair.
  It may stand where nobody looks, but it has no value. -/
  | garbled

namespace Json

def ofNat (n : Nat) : Json := num (.ofNat n)

/-- A double as a value; what has no numeral becomes null. -/
def ofFloat (x : Float) : Json :=
  match Numeral.ofFloat? x with
  | some n => num n
  | none => null

/-- A value that may be missing; null stands for the missing one. -/
def ofOption (write : α → Json) : Option α → Json
  | none => null
  | some x => write x

def ofList (write : α → Json) (xs : List α) : Json := arr (xs.map write)

def toBool? : Json → Option Bool
  | bool b => some b
  | _ => none

def toText? : Json → Option String
  | str s => some s
  | _ => none

def toCount? : Json → Option Nat
  | num n => n.toCount?
  | _ => none

def toFloat? : Json → Option Float
  | num n => n.toFloat?
  | _ => none

/-- The value as one that may be missing. -/
def toOption? (read : Json → Option α) : Json → Option (Option α)
  | null => some none
  | j => (read j).map some

def toList? (read : Json → Option α) : Json → Option (List α)
  | arr items => items.mapM read
  | _ => none

/-- The value as one of a few names.  A name may also stand as the only member
of an object, with null for its value. -/
def toName? (named : String → Option α) : Json → Option α
  | str s => named s
  | obj [(s, null)] => named s
  | _ => none

end Json

end Credence
