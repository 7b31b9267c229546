/-
Records in JSON.  A record is an object whose members are found by name, or an
array with its fields in order.
-/
import Credence.Json

namespace Credence.Json

/-- What a value gives for the fields of a record. -/
structure Fields where
  /-- One entry for each field. -/
  given : List (Option Json)
  /-- Whether the fields were found by name. -/
  named : Bool

/-- The one member that goes by one of the names, if there is any; nothing at
all if there are several. -/
def member? (names : List String) (members : List (String × Json)) :
    Option (Option Json) :=
  match members.filter fun m => names.contains m.1 with
  | [] => some none
  | [(_, value)] => some (some value)
  | _ => none

/-- The fields of a record, each known by one or more names.  Unknown members do
not matter; an array may stop early but not have too many items. -/
def fields? (names : List (List String)) : Json → Option Fields
  | obj members =>
      (names.mapM fun alternatives => member? alternatives members).map (⟨·, true⟩)
  | arr items =>
      if items.length ≤ names.length then
        let missing := List.replicate (names.length - items.length) none
        some ⟨items.map some ++ missing, false⟩
      else none
  | _ => none

namespace Fields

/-- What was given for a field. -/
def at? (f : Fields) (i : Nat) : Option Json := f.given[i]?.join

def required (f : Fields) (i : Nat) (read : Json → Option α) : Option α :=
  (f.at? i).bind read

/-- A field with a value that counts when it is missing. -/
def withDefault (f : Fields) (i : Nat) (read : Json → Option α) (default : α) :
    Option α :=
  match f.at? i with
  | some j => read j
  | none => some default

/-- A field that may be null, and may be missing where fields have names. -/
def optional (f : Fields) (i : Nat) (read : Json → Option α) :
    Option (Option α) :=
  match f.at? i with
  | some j => j.toOption? read
  | none => if f.named then some none else none

end Fields

end Credence.Json
