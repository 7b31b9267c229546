/-
What a double stands for.  A finite double is a whole number times a power of
two; this file reads that off its bits, rounds it to whole numbers without any
further rounding, and puts all doubles into one total order.
-/
namespace Credence.Number

/-- The value of a double: `significand * 2 ^ exponent` with a sign, an infinity,
or no number. -/
inductive Binary64 where
  | nan
  | infinite (negative : Bool)
  | finite (negative : Bool) (significand : Nat) (exponent : Int)
deriving DecidableEq, Repr

/-- Read a double.  An exponent field of zero means the same power of two as a
field of one, without the leading bit. -/
def Binary64.ofFloat (x : Float) : Binary64 :=
  let bits := x.toBits.toNat
  let negative := decide (1 <<< 63 ≤ bits)
  let field : Nat := bits >>> 52 % 1 <<< 11
  let fraction : Nat := bits % 1 <<< 52
  if field = 2047 then if fraction = 0 then .infinite negative else .nan
  else if field = 0 then .finite negative fraction (-1074)
  else .finite negative (1 <<< 52 + fraction) ((field : Int) - 1075)

/-- The largest whole number that a count may take. -/
def maxCount : Nat := 1 <<< 64 - 1

/-- The largest count not above `x`; zero if there is none. -/
def floorCount (x : Float) : Nat :=
  match Binary64.ofFloat x with
  | .nan => 0
  | .infinite negative => if negative then 0 else maxCount
  | .finite true _ _ => 0
  | .finite false significand exponent =>
      if 0 ≤ exponent then min (significand <<< exponent.toNat) maxCount
      else significand >>> (-exponent).toNat

/-- The smallest count not below `x`, as far as counts go; zero if `x` is no
number. -/
def ceilCount (x : Float) : Nat :=
  match Binary64.ofFloat x with
  | .nan => 0
  | .infinite negative => if negative then 0 else maxCount
  | .finite true _ _ => 0
  | .finite false significand exponent =>
      if 0 ≤ exponent then min (significand <<< exponent.toNat) maxCount
      else
        let unit := 1 <<< (-exponent).toNat
        (significand + (unit - 1)) / unit

/-- The place of a double in the total order: by value, `-0.0` right before
`0.0`, and what is no number behind everything.  The last part assumes a positive
sign, which a NaN has unless a calculation gave it another one. -/
def totalKey (x : Float) : Int :=
  let bits := x.toBits.toNat
  if 1 <<< 63 ≤ bits then -((bits - 1 <<< 63 : Nat) : Int) - 1 else bits

/-- Whether `x` comes before `y` in the total order or is the same double. -/
def totalLe (x y : Float) : Bool :=
  decide (totalKey x ≤ totalKey y)

theorem totalLe_trans {x y z : Float} (hxy : totalLe x y = true)
    (hyz : totalLe y z = true) : totalLe x z = true := by
  simp only [totalLe, decide_eq_true_eq] at hxy hyz ⊢
  exact Int.le_trans hxy hyz

theorem totalLe_total (x y : Float) : (totalLe x y || totalLe y x) = true := by
  simp only [totalLe, Bool.or_eq_true, decide_eq_true_eq]
  exact Int.le_total _ _

end Credence.Number
