/-
The nearest neighbours: a row belongs to the class of most of the samples that
lie next to it.
-/
import Credence.Features

namespace Credence

/-- How many neighbours have a vote. -/
structure NearestSettings where
  neighbours : Nat
deriving DecidableEq, Repr

namespace NearestSettings

def standard : NearestSettings := ⟨8⟩

def problem? (s : NearestSettings) : Option InvalidSetting :=
  if s.neighbours = 0 then some .neighbours else none

end NearestSettings

namespace Nearest

/-- The square of a difference. -/
def squaredGap (x y : Float) : Float := (x - y) * (x - y)

def distance (x y : Features) : Float :=
  Float.sqrt ((x.toList.zipWith squaredGap y.toList).foldl (· + ·) 0.0)

/-- The first pair of features that have no difference. -/
def gaplessPair? (x y : Features) : Option (Float × Float) :=
  (x.toList.zip y.toList).find? fun p => (p.1 - p.2).isNaN

/-- The rank in front of all distances. -/
def frontRank : Int := -2

/-- The place of a sample in the order of nearness.  Without a distance, a sample
whose feature is infinite like that of the row comes first, and one where a
feature is no number comes last.  This assumes that a NaN among the features has
a positive sign and that `inf - inf` is a NaN with a negative one, as on x86-64. -/
def rank (sample row : Features) : Int :=
  match gaplessPair? sample row with
  | some (x, y) =>
      if x.isNaN || y.isNaN then Number.totalKey (distance sample row)
      else frontRank
  | none => Number.totalKey (distance sample row)

/-- The samples from near to far, those equally far in their given order. -/
def byNearness (samples : List Sample) (row : Features) : List (Int × Verdict) :=
  (samples.map fun s => (rank s.features row, s.verdict)).mergeSort
    fun a b => decide (a.1 ≤ b.1)

/-- The verdicts of the samples that have a vote, the nearest one first. -/
def voters (s : NearestSettings) (samples : List Sample) (row : Features) :
    List Verdict :=
  ((byNearness samples row).take s.neighbours).map (·.2)

/-- The verdict of most voters; if both have as many, that of the first one. -/
def decision (votes : List Verdict) : Verdict :=
  let positive := votes.count .positive
  let negative := votes.count .negative
  if negative < positive then .positive
  else if positive < negative then .negative
  else votes.head?.getD .negative

/-- The class of a row. -/
def classify (s : NearestSettings) (samples : List Sample) (row : Features) :
    Verdict :=
  decision (voters s samples row)

end Nearest

/-- A classifier that remembers all samples, of which some have a vote. -/
structure NearestClassifier where
  settings : NearestSettings
  samples : List Sample
  width? : Option Nat

namespace NearestClassifier

def fresh (settings : NearestSettings) : NearestClassifier :=
  ⟨settings, [], none⟩

/-- Remember a training set and forget all others. -/
def store (t : TrainingSet) (c : NearestClassifier) : NearestClassifier :=
  { c with samples := t.samples, width? := some t.width }

def predict (c : NearestClassifier) (row : Features) : Except Error Verdict := do
  checkWidth c.width? row
  return Nearest.classify c.settings c.samples row

def isFitted (c : NearestClassifier) : Bool := c.width?.isSome

end NearestClassifier

end Credence
