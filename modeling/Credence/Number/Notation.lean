/-
How doubles are written: in plain positional form with the fewest digits, with a
fixed number of places, or with a fixed number of significant digits and an
exponent.
-/
import Credence.Number.Decimal

namespace Credence.Number

/-- The decimal point put in front of the last `places` digits, with zeros
filled in where digits are missing. -/
def pointBefore (places : Nat) (digits : List Char) : String :=
  let padded := List.replicate (places + 1 - digits.length) '0' ++ digits
  let whole := padded.length - places
  let fraction := padded.drop whole
  if fraction.isEmpty then String.ofList padded
  else String.ofList (padded.take whole ++ '.' :: fraction)

def Decimal.positional (d : Decimal) : String :=
  if 0 ≤ d.exponent then
    pointBefore 0 (digitsOf d.digits ++ List.replicate d.exponent.toNat '0')
  else pointBefore (-d.exponent).toNat (digitsOf d.digits)

/-- The sign in front of a number. -/
def signText (negative : Bool) : String :=
  if negative then "-" else ""

/-- What is written for an infinity. -/
def infinityText (negative : Bool) : String :=
  signText negative ++ "inf"

/-- A double in positional form with the fewest digits that read back, ties away
from zero. -/
def plain (x : Float) : String :=
  match Binary64.ofFloat x with
  | .nan => "NaN"
  | .infinite negative => infinityText negative
  | .finite negative 0 _ => signText negative ++ "0"
  | .finite negative significand exponent =>
      signText negative ++ (shortest .up significand exponent).positional

/-- A double rounded to a fixed number of places, ties to even. -/
def fixed (places : Nat) (x : Float) : String :=
  match Binary64.ofFloat x with
  | .nan => "NaN"
  | .infinite negative => infinityText negative
  | .finite negative significand exponent =>
      let q := Quotient.ofBinary significand exponent
      let units := q.roundTo .even (-(places : Int))
      signText negative ++ pointBefore places (digitsOf units)

/-- A double with one digit before the point, `places` behind it and an exponent,
ties to even. -/
def scientific (places : Nat) (x : Float) : String :=
  match Binary64.ofFloat x with
  | .nan => "NaN"
  | .infinite negative => infinityText negative
  | .finite negative 0 _ =>
      signText negative ++ pointBefore places ['0'] ++ "e0"
  | .finite negative significand exponent =>
      let q := Quotient.ofBinary significand exponent
      let d := q.significant .even (places + 1)
      signText negative ++ pointBefore places (digitsOf d.digits) ++ "e"
        ++ toString (d.exponent + places)

/-- A share as a percentage with two places. -/
def percent (x : Float) : String :=
  fixed 2 (x * 100.0) ++ "%"

end Credence.Number
