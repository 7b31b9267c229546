/-
Rows of features, and the sets of labelled rows that a classifier learns from.
Every kind of classifier checks both in the same way.
-/
import Credence.Labels

namespace Credence

/-- The features of one text. -/
abbrev Features := Array Float

def Features.column (x : Features) (j : Nat) : Float := x.getD j 0.0

/-- A row with the class it belongs to. -/
structure Sample where
  features : Features
  verdict : Verdict
deriving DecidableEq

/-- Something to learn from: at least one sample, and all rows of one width. -/
structure TrainingSet where
  samples : List Sample
  width : Nat
  samples_ne_nil : samples ≠ []
  size_eq_width : ∀ s ∈ samples, s.features.size = width

namespace TrainingSet

/-- The first row that is not as wide as it should be, with its place. -/
def raggedRow? (width : Nat) (rows : List Features) : Option (Features × Nat) :=
  rows.zipIdx.find? fun row => row.1.size != width

theorem size_of_raggedRow?_eq_none {width : Nat} {rows : List Features}
    (h : raggedRow? width rows = none) : ∀ row ∈ rows, row.size = width := by
  intro row hrow
  obtain ⟨i, hi⟩ := List.mem_iff_getElem?.1 hrow
  have hmem : (row, i) ∈ rows.zipIdx := by
    rw [List.mem_iff_getElem?]
    exact ⟨i, by simp [List.getElem?_zipIdx, hi]⟩
  have := List.find?_eq_none.1 h (row, i) hmem
  simpa using this

def join (rows : List Features) (verdicts : List Verdict) : List Sample :=
  rows.zipWith Sample.mk verdicts

theorem features_mem_of_mem_join {rows : List Features}
    {verdicts : List Verdict} {s : Sample} (h : s ∈ join rows verdicts) :
    s.features ∈ rows := by
  induction rows generalizing verdicts with
  | nil => simp [join] at h
  | cons row rest ih =>
      cases verdicts with
      | nil => simp [join] at h
      | cons v vs =>
          simp only [join, List.zipWith_cons_cons, List.mem_cons] at h
          cases h with
          | inl h => simp [h]
          | inr h => exact List.mem_cons_of_mem _ (ih h)

/-- Check rows and class codes and put them together. -/
def make (rows : List Features) (codes : List Nat) : Except Error TrainingSet :=
  if hlength : rows.length = codes.length then
    match rows, hlength with
    | [], _ => .error .emptyTrainingSet
    | first :: others, hlength =>
        match hragged : raggedRow? first.size (first :: others) with
        | some (row, i) => .error (.raggedRow i row.size first.size)
        | none =>
            match codes, hlength with
            | code :: codes, _ => do
                let verdict ← Verdict.ofCode code
                let verdicts ← codes.mapM Verdict.ofCode
                return {
                  samples := join (first :: others) (verdict :: verdicts)
                  width := first.size
                  samples_ne_nil := by simp [join]
                  size_eq_width := fun s hs =>
                    size_of_raggedRow?_eq_none hragged _
                      (features_mem_of_mem_join hs) }
  else .error (.lengthMismatch rows.length codes.length)

def size (t : TrainingSet) : Nat := t.samples.length

end TrainingSet

/-- Something that writes to a classifier of some kind and that may fail. -/
abbrev Learning (σ α : Type) := ExceptT Error (StateM σ) α

namespace Learning

/-- Check rows and class codes, and write what is to be learnt from them. -/
def fit (store : TrainingSet → σ → σ) (rows : List Features)
    (codes : List Nat) : Learning σ Unit := do
  let t ← TrainingSet.make rows codes
  modify (store t)

/-- Whether learning succeeds, and what it makes of a classifier. -/
def act (a : Learning σ α) (c : σ) : Except Error α × σ := a.run.run c

theorem act_fit (store : TrainingSet → σ → σ) (rows : List Features)
    (codes : List Nat) (c : σ) :
    (fit store rows codes).act c =
      match TrainingSet.make rows codes with
      | .ok t => (.ok ⟨⟩, store t c)
      | .error e => (.error e, c) := by
  rw [fit]
  cases TrainingSet.make rows codes with
  | ok t => rfl
  | error e => rfl

end Learning

/-- Check that a row is as wide as the rows learnt from.  A classifier that has
learnt nothing knows no width. -/
def checkWidth (width? : Option Nat) (row : Features) : Except Error Unit :=
  match width? with
  | none => .error .unfittedClassifier
  | some width =>
      if row.size = width then .ok ⟨⟩ else .error (.wrongWidth row.size width)

end Credence
