/-
Decision trees: every inner node compares one feature with a threshold, and every
leaf holds an answer.
-/
import Credence.Features

namespace Credence

/-- A tree of questions with answers at its leaves. -/
inductive Tree (α : Type) where
  | leaf (answer : α)
  /-- Go to the left if the feature is not above the threshold. -/
  | split (feature : Nat) (threshold : Float) (left right : Tree α)
deriving DecidableEq

namespace Tree

def goesLeft (feature : Nat) (threshold : Float) (row : Features) : Bool :=
  row.column feature ≤ threshold

def classify (row : Features) : Tree α → α
  | leaf answer => answer
  | split feature threshold left right =>
      if goesLeft feature threshold row then left.classify row
      else right.classify row

/-- The number of questions on the way to the deepest leaf. -/
def depth : Tree α → Nat
  | leaf _ => 0
  | split _ _ left right => 1 + max left.depth right.depth

/-- The answers at the leaves, from left to right. -/
def leaves : Tree α → List α
  | leaf answer => [answer]
  | split _ _ left right => left.leaves ++ right.leaves

/-- The features that are asked for. -/
def features : Tree α → List Nat
  | leaf _ => []
  | split feature _ left right => feature :: (left.features ++ right.features)

def map (f : α → β) : Tree α → Tree β
  | leaf answer => leaf (f answer)
  | split feature threshold left right =>
      split feature threshold (left.map f) (right.map f)

theorem depth_map (f : α → β) (t : Tree α) : (t.map f).depth = t.depth := by
  induction t with
  | leaf _ => rfl
  | split feature threshold left right ihl ihr => simp [map, depth, ihl, ihr]

theorem leaves_map (f : α → β) (t : Tree α) :
    (t.map f).leaves = t.leaves.map f := by
  induction t with
  | leaf _ => rfl
  | split feature threshold left right ihl ihr => simp [map, leaves, ihl, ihr]

end Tree

end Credence
