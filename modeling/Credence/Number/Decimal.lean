/-
Decimal digits of doubles, computed in whole numbers: rounded to a grid of powers
of ten, or the fewest that read back as the same double.
-/
import Credence.Number.Binary64

namespace Credence.Number

/-- Which of two equally near numbers is taken. -/
inductive Tie where
  /-- The even one. -/
  | even
  /-- The larger one. -/
  | up
deriving DecidableEq, Repr

/-- The number taken if `lower` and `lower + 1` are equally near. -/
def Tie.settle (lower : Nat) : Tie → Nat
  | even => lower + lower % 2
  | up => lower + 1

/-- The whole number nearest to a quotient. -/
def roundDiv (tie : Tie) (numerator denominator : Nat) : Nat :=
  let quotient := numerator / denominator
  let double := 2 * (numerator % denominator)
  if double < denominator then quotient
  else if denominator < double then quotient + 1
  else tie.settle quotient

/-- The digits of a whole number, the leading one first. -/
def digitsOf (n : Nat) : List Char := Nat.toDigits 10 n

/-- A decimal `digits * 10 ^ exponent`. -/
structure Decimal where
  digits : Nat
  exponent : Int
deriving DecidableEq, Repr

/-- A positive rational number as a quotient of whole numbers. -/
structure Quotient where
  numerator : Nat
  denominator : Nat
deriving DecidableEq, Repr

/-- `significand * 2 ^ exponent`. -/
def Quotient.ofBinary (significand : Nat) (exponent : Int) : Quotient :=
  if 0 ≤ exponent then ⟨significand <<< exponent.toNat, 1⟩
  else ⟨significand, 1 <<< (-exponent).toNat⟩

/-- `q / 10 ^ exponent`. -/
def Quotient.shifted (q : Quotient) (exponent : Int) : Quotient :=
  if 0 ≤ exponent then ⟨q.numerator, q.denominator * Nat.pow 10 exponent.toNat⟩
  else ⟨q.numerator * Nat.pow 10 (-exponent).toNat, q.denominator⟩

/-- The exponent of the power of ten that is nearest below a positive number. -/
def Quotient.magnitude (q : Quotient) : Int :=
  let guess : Int :=
    (digitsOf q.numerator).length - (digitsOf q.denominator).length
  let s := q.shifted guess
  if s.numerator < s.denominator then guess - 1 else guess

/-- The multiple of `10 ^ exponent` nearest to a number. -/
def Quotient.roundTo (q : Quotient) (tie : Tie) (exponent : Int) : Nat :=
  let s := q.shifted exponent
  roundDiv tie s.numerator s.denominator

/-- A positive number with the given count of significant digits. -/
def Quotient.significant (q : Quotient) (tie : Tie) (count : Nat) : Decimal :=
  let exponent := q.magnitude - (count - 1 : Nat)
  let digits := q.roundTo tie exponent
  if digits = Nat.pow 10 count then ⟨Nat.pow 10 (count - 1), exponent + 1⟩
  else ⟨digits, exponent⟩

/-- The numbers that round to one double: everything between `low` and `high`,
the ends included if the double's significand is even. -/
structure RoundingRange where
  low : Quotient
  high : Quotient
  closed : Bool

/-- The rounding range of `significand * 2 ^ exponent`.  Below a power of two the
next double is only half as far away. -/
def RoundingRange.ofBinary (significand : Nat) (exponent : Int) :
    RoundingRange :=
  let below := if significand = 1 <<< 52 ∧ -1074 < exponent then 1 else 2
  ⟨.ofBinary (4 * significand - below) (exponent - 2),
    .ofBinary (4 * significand + 2) (exponent - 2), significand % 2 = 0⟩

/-- Whether `digits * 10 ^ exponent` lies in a rounding range. -/
def RoundingRange.holds (r : RoundingRange) (exponent : Int) (digits : Nat) :
    Bool :=
  let low := r.low.shifted exponent
  let high := r.high.shifted exponent
  let point (q : Quotient) := digits * q.denominator
  if r.closed then
    decide (low.numerator ≤ point low) && decide (point high ≤ high.numerator)
  else
    decide (low.numerator < point low) && decide (point high < high.numerator)

/-- Drop the zeros at the end of the digits. -/
def Decimal.strip : Nat → Decimal → Decimal
  | 0, d => d
  | fuel + 1, d =>
      if d.digits ≠ 0 ∧ d.digits % 10 = 0 then
        Decimal.strip fuel ⟨d.digits / 10, d.exponent + 1⟩
      else d

/-- Try grids from coarse to fine.  On each one only the two neighbours of the
number can lie in its rounding range; if both do, the nearer one is taken. -/
def shortestFrom (q : Quotient) (r : RoundingRange) (tie : Tie)
    (magnitude : Int) : Nat → Nat → Decimal
  | 0, count => q.significant tie count
  | fuel + 1, count =>
      let exponent := magnitude - (count - 1 : Nat)
      let nearest := q.roundTo tie exponent
      let s := q.shifted exponent
      let lower := s.numerator / s.denominator
      if r.holds exponent nearest then ⟨nearest, exponent⟩
      else if r.holds exponent lower then ⟨lower, exponent⟩
      else if r.holds exponent (lower + 1) then ⟨lower + 1, exponent⟩
      else shortestFrom q r tie magnitude fuel (count + 1)

/-- The decimal with the fewest digits that rounds to `significand * 2 ^ exponent`,
and of those the nearest. -/
def shortest (tie : Tie) (significand : Nat) (exponent : Int) : Decimal :=
  let q := Quotient.ofBinary significand exponent
  let r := RoundingRange.ofBinary significand exponent
  (shortestFrom q r tie q.magnitude 16 1).strip 17

end Credence.Number
