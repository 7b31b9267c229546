/-
Logistic regression: a weighted sum of the features, squeezed into a probability.
The weights are found by going down the gradient of all samples at once.
-/
import Credence.Features

namespace Credence

/-- How the weights are looked for. -/
structure LogisticSettings where
  learningRate : Float
  maxIterations : Nat
  tolerance : Float
deriving DecidableEq

namespace LogisticSettings

def standard : LogisticSettings := ⟨0.5, 1000, 1e-6⟩

def problem? (s : LogisticSettings) : Option InvalidSetting :=
  if !(0.0 < s.learningRate && s.learningRate.isFinite) then
    some (.learningRate s.learningRate)
  else if s.maxIterations = 0 then some .iterations
  else if s.tolerance < 0.0 then some .tolerance
  else none

end LogisticSettings

/-- Weights for the features, and a summand of their own. -/
structure Weights where
  slopes : List Float
  bias : Float
deriving DecidableEq

namespace Logistic

/-- The logistic function, without overflow on either side. -/
def sigmoid (z : Float) : Float :=
  if z ≥ 0.0 then 1.0 / (1.0 + Float.exp (-z))
  else
    let e := Float.exp z
    e / (1.0 + e)

/-- The sum of the products of two rows, from left to right. -/
def dot (x y : List Float) : Float :=
  (x.zipWith (· * ·) y).foldl (· + ·) 0.0

/-- The probability that a row belongs to the positive class. -/
def probability (w : Weights) (row : List Float) : Float :=
  sigmoid (dot w.slopes row + w.bias)

def target : Verdict → Float
  | .negative => 0.0
  | .positive => 1.0

/-- A row of numbers with the class it belongs to. -/
abbrev Case := List Float × Verdict

def casesOf (t : TrainingSet) : List Case :=
  t.samples.map fun x => (x.features.toList, x.verdict)

/-- The larger of two numbers, or the one that is a number. -/
def larger (x y : Float) : Float :=
  if x.isNaN then y else if y > x then y else x

/-- What the search for weights reads and writes: the weights themselves, what the
samples say about the gradient there, and the largest part of its mean.  The room for
the gradient is used again in every step. -/
structure Descent where
  slopes : Array Float
  bias : Float
  gradient : Array Float
  biasGradient : Float
  largest : Float

namespace Descent

/-- Zero weights for rows of some width. -/
def start (width : Nat) : Descent :=
  ⟨Array.replicate width 0.0, 0.0, Array.replicate width 0.0, 0.0, 0.0⟩

def weights (d : Descent) : Weights := ⟨d.slopes.toList, d.bias⟩

/-- Forget what was said about the gradient. -/
def clear (d : Descent) : Descent :=
  { d with gradient := d.gradient.map fun _ => 0.0, biasGradient := 0.0 }

/-- Add what one feature of a sample says about the slope at its place. -/
def addPart (error : Float) (gradient : Array Float) (x : Float × Nat) :
    Array Float :=
  gradient.modify x.2 (· + error * x.1)

/-- Add what one sample says about the gradient at the weights so far. -/
def addError (d : Descent) (c : Case) : Descent :=
  let error := probability d.weights c.1 - target c.2
  { d with
    gradient := c.1.zipIdx.foldl (addPart error) d.gradient
    biasGradient := d.biasGradient + error }

/-- Move the slope at one place against its part of the mean gradient, and take that
part for the largest one if it is. -/
def moveSlope (rate count : Float) (d : Descent) (g : Float × Nat) : Descent :=
  let part := g.1 / count
  { d with
    largest := larger d.largest part.abs
    slopes := d.slopes.modify g.2 (· - rate * part) }

/-- Move all weights against the mean gradient. -/
def move (rate count : Float) (d : Descent) : Descent :=
  let d := { d with largest := (d.biasGradient / count).abs }
  let d := d.gradient.toList.zipIdx.foldl (moveSlope rate count) d
  { d with bias := d.bias - rate * d.biasGradient / count }

/-- Go one step against the mean gradient of all samples. -/
def step (rate : Float) (cases : List Case) (d : Descent) : Descent :=
  (cases.foldl addError d.clear).move rate (Float.ofNat cases.length)

end Descent

/-- Go on until the gradient is flat or no step is left.  The second component
counts the steps. -/
def search (s : LogisticSettings) (cases : List Case) :
    Nat → Nat → Descent → Descent × Nat
  | 0, done, d => (d, done)
  | left + 1, done, d =>
      let next := d.step s.learningRate cases
      if next.largest < s.tolerance then (next, done + 1)
      else search s cases left (done + 1) next

/-- The nearest number between two limits. -/
def clamp (low high x : Float) : Float :=
  if x < low then low else if x > high then high else x

/-- The smallest probability that counts as such. -/
def minProbability : Float := 1e-12

/-- How surprising a class is under a probability of the positive one. -/
def surprise (probability : Float) (v : Verdict) : Float :=
  let p := clamp minProbability (1.0 - minProbability) probability
  match v with
  | .positive => -(Float.log p)
  | .negative => -(Float.log (1.0 - p))

/-- The mean surprise of some cases. -/
def loss (w : Weights) (cases : List Case) : Float :=
  (cases.map fun c => surprise (probability w c.1) c.2).foldl (· + ·) 0.0
    / Float.ofNat cases.length

end Logistic

/-- Weights that were found, how many steps it took, and how well they fit. -/
structure LogisticModel where
  weights : Weights
  iterations : Nat
  loss : Float
deriving DecidableEq

namespace LogisticModel

def learn (s : LogisticSettings) (t : TrainingSet) : LogisticModel :=
  let cases := Logistic.casesOf t
  let (d, iterations) :=
    Logistic.search s cases s.maxIterations 0 (.start t.width)
  ⟨d.weights, iterations, Logistic.loss d.weights cases⟩

def width (m : LogisticModel) : Nat := m.weights.slopes.length

def probability (m : LogisticModel) (row : Features) : Float :=
  Logistic.probability m.weights row.toList

end LogisticModel

/-- A classifier that weighs the features, as soon as it has weights. -/
structure LogisticClassifier where
  settings : LogisticSettings
  model? : Option LogisticModel

namespace LogisticClassifier

def fresh (settings : LogisticSettings) : LogisticClassifier := ⟨settings, none⟩

/-- Find weights for a training set and forget all others. -/
def store (t : TrainingSet) (c : LogisticClassifier) : LogisticClassifier :=
  { c with model? := some (.learn c.settings t) }

def width? (c : LogisticClassifier) : Option Nat := c.model?.map (·.width)

def probability (c : LogisticClassifier) (row : Features) :
    Except Error Float := do
  checkWidth c.width? row
  match c.model? with
  | none => throw (.missingPart "logistic regression")
  | some m => return m.probability row

/-- The class of a row: positive from one half on. -/
def predict (c : LogisticClassifier) (row : Features) :
    Except Error Verdict := do
  let p ← c.probability row
  return if p ≥ 0.5 then .positive else .negative

def isFitted (c : LogisticClassifier) : Bool := c.model?.isSome

end LogisticClassifier

end Credence
