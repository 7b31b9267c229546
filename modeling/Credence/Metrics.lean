/-
How good predictions are: four counts of right and wrong answers, and the shares
that follow from them.  The shares are computed in any arithmetic with sums,
products and quotients; doubles are one of them.
-/
import Credence.Labels

namespace Credence

/-- An arithmetic with counts in it. -/
class Fractional (α : Type) extends Add α, Mul α, Div α, BEq α where
  /-- The number that equals a count. -/
  ofCount : Nat → α

instance : Fractional Float where
  ofCount := Float.ofNat

open Fractional (ofCount)

/-- How often each verdict met each truth. -/
structure Confusion where
  truePositives : Nat
  trueNegatives : Nat
  falsePositives : Nat
  falseNegatives : Nat
deriving DecidableEq, Repr

namespace Confusion

def empty : Confusion := ⟨0, 0, 0, 0⟩

/-- Count one more truth and what was predicted for it. -/
def add (c : Confusion) : Verdict × Verdict → Confusion
  | (.positive, .positive) => { c with truePositives := c.truePositives + 1 }
  | (.negative, .negative) => { c with trueNegatives := c.trueNegatives + 1 }
  | (.negative, .positive) => { c with falsePositives := c.falsePositives + 1 }
  | (.positive, .negative) => { c with falseNegatives := c.falseNegatives + 1 }

def ofPairs (pairs : List (Verdict × Verdict)) : Confusion :=
  pairs.foldl add empty

def total (c : Confusion) : Nat :=
  c.truePositives + c.trueNegatives + c.falsePositives + c.falseNegatives

/-- The same counts seen from the negative class. -/
def swap (c : Confusion) : Confusion :=
  ⟨c.trueNegatives, c.truePositives, c.falseNegatives, c.falsePositives⟩

end Confusion

/-- A quotient of counts; zero where there is nothing to divide by. -/
def ratio [Fractional α] (numerator denominator : Nat) : α :=
  if denominator = 0 then ofCount 0
  else ofCount numerator / ofCount denominator

/-- The harmonic mean of two shares; zero if both are zero. -/
def harmonicMean [Fractional α] (precision sensitivity : α) : α :=
  let sum := precision + sensitivity
  if sum == ofCount 0 then ofCount 0
  else ofCount 2 * precision * sensitivity / sum

/-- How well one class was told apart from the other one. -/
structure ClassMetrics (α : Type) where
  /-- The share of the class among the answers that name it. -/
  precision : α
  /-- The share of the class that was found, also known as its recall. -/
  sensitivity : α
  f1 : α
  /-- How often the class was the truth. -/
  support : Nat
deriving DecidableEq, Repr

namespace ClassMetrics

/-- The metrics of the positive class. -/
def ofConfusion [Fractional α] (c : Confusion) : ClassMetrics α :=
  let precision := ratio c.truePositives (c.truePositives + c.falsePositives)
  let sensitivity := ratio c.truePositives (c.truePositives + c.falseNegatives)
  ⟨precision, sensitivity, harmonicMean precision sensitivity,
    c.truePositives + c.falseNegatives⟩

/-- The mean of the metrics of two classes, each with the same weight. -/
def mean [Fractional α] (x y : ClassMetrics α) : ClassMetrics α where
  precision := (x.precision + y.precision) / ofCount 2
  sensitivity := (x.sensitivity + y.sensitivity) / ofCount 2
  f1 := (x.f1 + y.f1) / ofCount 2
  support := x.support + y.support

end ClassMetrics

/-- Everything that is known about some predictions.  The overall precision,
sensitivity and harmonic mean are those of the positive class. -/
structure Metrics (α : Type) where
  accuracy : α
  precision : α
  sensitivity : α
  f1 : α
  confusion : Confusion
  positive : ClassMetrics α
  negative : ClassMetrics α
  macroAverage : ClassMetrics α
deriving DecidableEq, Repr

namespace Metrics

def ofConfusion [Fractional α] (c : Confusion) : Metrics α :=
  let positive := ClassMetrics.ofConfusion c
  let negative := ClassMetrics.ofConfusion c.swap
  { accuracy := ratio (c.truePositives + c.trueNegatives) c.total
    precision := positive.precision
    sensitivity := positive.sensitivity
    f1 := positive.f1
    confusion := c
    positive, negative
    macroAverage := positive.mean negative }

def ofPairs [Fractional α] (pairs : List (Verdict × Verdict)) : Metrics α :=
  ofConfusion (Confusion.ofPairs pairs)

end Metrics

/-- Compare codes of the truth with predicted ones, place by place. -/
def evaluate [Fractional α] (actual predicted : List Nat) :
    Except Error (Metrics α) := do
  if actual.length ≠ predicted.length then
    throw (.lengthMismatch actual.length predicted.length)
  let truth ← actual.mapM Verdict.ofCode
  let guesses ← predicted.mapM Verdict.ofCode
  return Metrics.ofPairs (truth.zip guesses)

end Credence
