/-
Numbers as JSON writes them.  A numeral keeps its digits; what count or what
double it stands for is asked only where one is wanted.
-/
import Credence.Number.Notation

namespace Credence

/-- A number as it is written: a sign, digits before and behind the point, and
perhaps an exponent of ten. -/
structure Numeral where
  negative : Bool
  whole : List Char
  fraction : List Char
  exponent : Option Int
deriving DecidableEq, Repr

namespace Numeral

def digitValue (c : Char) : Nat := c.toNat - '0'.toNat

/-- The number that digits stand for. -/
def ofDigits (digits : List Char) : Nat :=
  digits.foldl (fun n c => 10 * n + digitValue c) 0

/-- The count that a numeral stands for: digits alone, and not too many. -/
def toCount? (n : Numeral) : Option Nat :=
  if n.negative || !n.fraction.isEmpty || n.exponent.isSome then none
  else
    let count := ofDigits n.whole
    if count ≤ Number.maxCount then some count else none

/-- Take digits into a significand as long as it stays a count.  The second
component says how many were taken. -/
def absorb (significand : Nat) : List Char → Nat × Nat
  | [] => (significand, 0)
  | c :: rest =>
      let next := 10 * significand + digitValue c
      if next ≤ Number.maxCount then
        let (total, taken) := absorb next rest
        (total, taken + 1)
      else (significand, 0)

def powerOfTen (exponent : Nat) : Float :=
  Float.ofScientific 1 false exponent

/-- The largest power of ten among the doubles. -/
def maxPower : Nat := 308

/-- `significand * 10 ^ exponent` by at most two divisions or one
multiplication; nothing if it is too large for a double. -/
def scale? (significand : Nat) (exponent : Int) : Option Float :=
  let value := Float.ofNat significand
  if 0 ≤ exponent then
    if exponent ≤ maxPower then
      let scaled := value * powerOfTen exponent.toNat
      if scaled.isInf then none else some scaled
    else if significand = 0 then some value
    else none
  else
    let places := (-exponent).toNat
    if places ≤ maxPower then some (value / powerOfTen places)
    else if places ≤ 2 * maxPower then
      some (value / powerOfTen maxPower / powerOfTen (places - maxPower))
    else some 0.0

/-- The double that a numeral stands for.  Digits that find no room in the
significand count by their place alone. -/
def toFloat? (n : Numeral) : Option Float :=
  let (upper, takenWhole) := absorb 0 n.whole
  let (significand, takenFraction) := absorb upper n.fraction
  let dropped := n.whole.length - takenWhole
  let exponent := (dropped : Int) - takenFraction + n.exponent.getD 0
  (scale? significand exponent).map fun x => if n.negative then -x else x

def ofNat (n : Nat) : Numeral :=
  ⟨false, Number.digitsOf n, [], none⟩

/-- The numeral of a decimal: in positional form, with a zero behind the point
of a whole number, from `0.00001` up to `10 ^ 16`, and with an exponent outside
of that. -/
def ofDecimal (negative : Bool) (d : Number.Decimal) : Numeral :=
  let digits := Number.digitsOf d.digits
  let point := (digits.length : Int) + d.exponent
  if 0 < point ∧ point ≤ 16 then
    let filled := digits ++ List.replicate d.exponent.toNat '0'
    let fraction := filled.drop point.toNat
    ⟨negative, filled.take point.toNat,
      if fraction.isEmpty then ['0'] else fraction, none⟩
  else if -5 < point ∧ point ≤ 0 then
    ⟨negative, ['0'], List.replicate (-point).toNat '0' ++ digits, none⟩
  else ⟨negative, digits.take 1, digits.drop 1, some (point - 1)⟩

/-- The numeral of a double, with the fewest digits that read back and ties to
even; nothing for an infinity or for what is no number. -/
def ofFloat? (x : Float) : Option Numeral :=
  match Number.Binary64.ofFloat x with
  | .nan | .infinite _ => none
  | .finite negative 0 _ => some ⟨negative, ['0'], ['0'], none⟩
  | .finite negative significand exponent =>
      some (ofDecimal negative (Number.shortest .even significand exponent))

def text (n : Numeral) : String :=
  Number.signText n.negative ++ String.ofList n.whole
    ++ (if n.fraction.isEmpty then "" else "." ++ String.ofList n.fraction)
    ++ (match n.exponent with
        | none => ""
        | some e => "e" ++ toString e)

end Numeral

end Credence
