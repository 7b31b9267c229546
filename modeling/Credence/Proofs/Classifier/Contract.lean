/-
The contract that every kind of classifier keeps.  It learns from exactly those sets
that make sense, each one replaces what was learnt before, and from then on it answers
for the rows of one width.
-/
import Credence.Proofs.Classifier

namespace Credence

/-- The last ones that can be learnt from. -/
def LabelledRows.lastLearnable? (sets : List LabelledRows) :
    Option LabelledRows :=
  (sets.filter fun s => decide (Learnable s.1 s.2)).getLast?

namespace LabelledRows

theorem lastLearnable?_cons (s : LabelledRows) (sets : List LabelledRows) :
    lastLearnable? (s :: sets) =
      (lastLearnable? sets).or
        (if Learnable s.1 s.2 then some s else none) := by
  have happend : s :: sets = [s] ++ sets := rfl
  rw [lastLearnable?, happend, List.filter_append, List.getLast?_append,
    lastLearnable?]
  by_cases h : Learnable s.1 s.2
  · simp [h]
  · simp [h]

theorem isSome_lastLearnable?_iff {sets : List LabelledRows} :
    (lastLearnable? sets).isSome ↔ ∃ s ∈ sets, Learnable s.1 s.2 := by
  simp [lastLearnable?]

end LabelledRows

namespace Classifier

/-- Learn from one set after the other.  Each attempt has an outcome of its own. -/
def learnAll (c : Classifier) :
    List LabelledRows → List (Except Error Unit) × Classifier
  | [] => ([], c)
  | s :: sets =>
      let (outcome, c) := c.learn s.1 s.2
      let (outcomes, c) := c.learnAll sets
      (outcome :: outcomes, c)

section learn

variable (c : Classifier) {s : LabelledRows}

theorem exists_learn_eq_ok (h : Learnable s.1 s.2) :
    ∃ t, TrainingSet.make s.1 s.2 = .ok t ∧
      (∀ row ∈ s.1, row.size = t.width) ∧
      c.learn s.1 s.2 = (.ok ⟨⟩, c.store t) := by
  obtain ⟨t, ht, hwidth⟩ := TrainingSet.exists_make_eq_ok h
  exact ⟨t, ht, hwidth, by rw [learn_eq, ht]⟩

/-- Where nothing can be learnt, what was learnt before is still there. -/
theorem exists_learn_eq_error (h : ¬ Learnable s.1 s.2) :
    ∃ e, c.learn s.1 s.2 = (.error e, c) ∧ e.kind = s.refusal := by
  obtain ⟨e, he, hkind⟩ := LabelledRows.exists_make_eq_error h
  exact ⟨e, by rw [learn_eq, he], hkind⟩

end learn

/-- How a classifier that began as the first one can look, with the set that it has
learnt last. -/
inductive Holds (start : Classifier) :
    Option LabelledRows → Classifier → Prop
  | nothing : Holds start none start
  | learnt {s : LabelledRows} {t : TrainingSet}
      (hmake : TrainingSet.make s.1 s.2 = .ok t)
      (hwidth : ∀ row ∈ s.1, row.size = t.width) :
      Holds start (some s) (start.store t)

theorem Holds.learn {start c : Classifier} {last : Option LabelledRows}
    (hc : Holds start last c) (s : LabelledRows) :
    Holds start ((if Learnable s.1 s.2 then some s else none).or last)
      (c.learn s.1 s.2).2 := by
  by_cases h : Learnable s.1 s.2
  · obtain ⟨t, hmake, hwidth, hlearn⟩ := exists_learn_eq_ok c h
    have hstore : c.store t = start.store t := by
      cases hc with
      | nothing => rfl
      | learnt _ _ => exact store_store start _ t
    rw [if_pos h, Option.some_or, hlearn, hstore]
    exact .learnt hmake hwidth
  · obtain ⟨e, hlearn, -⟩ := exists_learn_eq_error c h
    rw [if_neg h, Option.none_or, hlearn]
    exact hc

theorem Holds.learnAll {start c : Classifier} {last : Option LabelledRows}
    (hc : Holds start last c) (sets : List LabelledRows) :
    Holds start ((LabelledRows.lastLearnable? sets).or last)
      (c.learnAll sets).2 := by
  induction sets generalizing c last with
  | nil => exact hc
  | cons s sets ih =>
      rw [LabelledRows.lastLearnable?_cons, Option.or_assoc]
      exact ih (hc.learn s)

/-- A classifier that checks the width of a row and then answers in any case. -/
structure Answers (c : Classifier) : Prop where
  isFitted_eq : c.isFitted = c.width?.isSome
  exists_predict_eq : ∃ answer : Features → Verdict,
    ∀ row, c.predict row = (checkWidth c.width? row).map fun _ => answer row

theorem answers_fresh (kind : ModelKind) (s : ClassifierSettings) :
    (fresh kind s).Answers where
  isFitted_eq := by rw [isFitted_fresh, width?_fresh, Option.isSome_none]
  exists_predict_eq := by
    refine ⟨fun _ => .negative, ?_⟩
    intro row
    rw [predict_fresh, width?_fresh]
    rfl

theorem answers_store {c : Classifier} (hvalid : c.problem? = none)
    (t : TrainingSet) : (c.store t).Answers where
  isFitted_eq := by
    rw [isFitted_store t hvalid, width?_store, Option.isSome_some]
  exists_predict_eq := by
    refine ⟨fun row => c.answer t row, ?_⟩
    intro row
    rw [predict_store t hvalid, width?_store]

section answers

variable {c : Classifier} (h : c.Answers) (row : Features)

include h

theorem Answers.predict_error_iff (kind : ErrorKind) :
    (∃ e, c.predict row = .error e ∧ e.kind = kind) ↔
      c.isFitted = false ∧ kind = .uninitialized ∨
        (∃ width, c.width? = some width ∧ row.size ≠ width) ∧
          kind = .typeMismatch := by
  obtain ⟨answer, hpredict⟩ := h.exists_predict_eq
  rw [h.isFitted_eq, hpredict]
  cases c.width? with
  | none => simp [checkWidth, Except.map, Error.kind, eq_comm]
  | some width =>
      by_cases hsize : row.size = width
      · simp [checkWidth_eq_ok hsize, Except.map, hsize]
      · simp [checkWidth_eq_error hsize, Except.map, hsize, Error.kind,
          @eq_comm ErrorKind]

theorem Answers.exists_predict_eq_ok {width : Nat}
    (hwidth : c.width? = some width) (hsize : row.size = width) :
    ∃ v, c.predict row = .ok v := by
  obtain ⟨answer, hpredict⟩ := h.exists_predict_eq
  refine ⟨answer row, ?_⟩
  rw [hpredict, hwidth, checkWidth_eq_ok hsize]
  rfl

end answers

/-- What an attempt to learn should come to. -/
def expected (s : LabelledRows) : Except ErrorKind Unit :=
  if Learnable s.1 s.2 then .ok ⟨⟩ else .error s.refusal

/-- Whether an attempt succeeds does not depend on the earlier ones. -/
theorem learnAll_outcomes (c : Classifier) (sets : List LabelledRows) :
    (c.learnAll sets).1.map (·.mapError Error.kind) = sets.map expected := by
  induction sets generalizing c with
  | nil => rfl
  | cons s sets ih =>
      rw [learnAll, List.map_cons, List.map_cons, ih]
      congr 1
      by_cases h : Learnable s.1 s.2
      · obtain ⟨t, -, -, hlearn⟩ := exists_learn_eq_ok c h
        rw [expected, if_pos h, hlearn]
        rfl
      · obtain ⟨e, hlearn, hkind⟩ := exists_learn_eq_error c h
        rw [expected, if_neg h, hlearn]
        exact congrArg Except.error hkind

/-- A classifier of any kind after some attempts to learn, in terms of what they were
about. -/
structure Contract (start : Classifier) (sets : List LabelledRows)
    (outcomes : List (Except Error Unit)) (c : Classifier) : Prop where
  outcomes_eq : outcomes.map (·.mapError Error.kind) = sets.map expected
  unfitted_of_none : LabelledRows.lastLearnable? sets = none → c = start
  /-- The last set that can be learnt from is all that counts. -/
  learnt_of_some : ∀ s, LabelledRows.lastLearnable? sets = some s →
    start.learn s.1 s.2 = (.ok ⟨⟩, c)
  isFitted_iff : c.isFitted = true ↔ ∃ s ∈ sets, Learnable s.1 s.2
  isSome_width?_iff : c.width?.isSome ↔ ∃ s ∈ sets, Learnable s.1 s.2
  width?_eq : ∀ s, LabelledRows.lastLearnable? sets = some s →
    ∀ row ∈ s.1, c.width? = some row.size
  predict_error_iff : ∀ row kind,
    (∃ e, c.predict row = .error e ∧ e.kind = kind) ↔
      c.isFitted = false ∧ kind = .uninitialized ∨
        (∃ width, c.width? = some width ∧ row.size ≠ width) ∧
          kind = .typeMismatch
  predict_ok : ∀ row width, c.width? = some width → row.size = width →
    ∃ v, c.predict row = .ok v ∧ (v.code = 0 ∨ v.code = 1)
  /-- Many rows are answered for if each of them is, one by one and in order. -/
  predictAll_ok_iff : ∀ rows verdicts,
    c.predictAll rows = .ok verdicts ↔ rows.map c.predict = verdicts.map .ok
  exists_predictAll_ok_iff : ∀ rows,
    (∃ verdicts, c.predictAll rows = .ok verdicts) ↔
      ∀ row ∈ rows, ∃ v, c.predict row = .ok v
  /-- The first row that is refused decides. -/
  predictAll_error_iff : ∀ rows e,
    c.predictAll rows = .error e ↔
      ∃ before row after, rows = before ++ row :: after ∧
        (∀ r ∈ before, ∃ v, c.predict r = .ok v) ∧ c.predict row = .error e

/-- Whatever was learnt from or refused before, and with whatever settings that hold,
a classifier of any kind keeps the contract. -/
theorem learnAll_contract {kind : ModelKind} {settings : ClassifierSettings}
    {c : Classifier} (hmake : make kind settings = .ok c)
    (sets : List LabelledRows) :
    Contract c sets (c.learnAll sets).1 (c.learnAll sets).2 := by
  obtain ⟨hvalid, rfl⟩ := make_eq_ok_iff.mp hmake
  rw [← problem?_fresh] at hvalid
  have hstart : Holds (fresh kind settings) none (fresh kind settings) :=
    .nothing
  have hholds := hstart.learnAll sets
  have houtcomes := learnAll_outcomes (fresh kind settings) sets
  rw [Option.or_none] at hholds
  generalize (fresh kind settings).learnAll sets = run at hholds houtcomes ⊢
  obtain ⟨outcomes, c⟩ := run
  dsimp only at hholds houtcomes ⊢
  have hexists : (LabelledRows.lastLearnable? sets).isSome ↔
      ∃ s ∈ sets, Learnable s.1 s.2 :=
    LabelledRows.isSome_lastLearnable?_iff
  generalize hlast : LabelledRows.lastLearnable? sets = last at hholds hexists
  have hanswers : c.Answers := by
    cases hholds with
    | nothing => exact answers_fresh kind settings
    | learnt _ _ => exact answers_store hvalid _
  have hwidth : c.width?.isSome ↔ ∃ s ∈ sets, Learnable s.1 s.2 := by
    rw [← hexists]
    cases hholds with
    | nothing => rw [width?_fresh]; rfl
    | learnt _ _ => rw [width?_store]; rfl
  exact {
    outcomes_eq := houtcomes
    unfitted_of_none := by
      rw [hlast]
      rintro rfl
      cases hholds with
      | nothing => rfl
    learnt_of_some := by
      rw [hlast]
      rintro s rfl
      cases hholds with
      | learnt hmake _ => rw [learn_eq, hmake]
    isFitted_iff := by rw [hanswers.isFitted_eq, hwidth]
    isSome_width?_iff := hwidth
    width?_eq := by
      rw [hlast]
      rintro s rfl row hrow
      cases hholds with
      | learnt _ hsize => rw [width?_store, hsize row hrow]
    predict_error_iff := hanswers.predict_error_iff
    predict_ok := by
      intro row width hwidth hsize
      obtain ⟨v, hv⟩ := hanswers.exists_predict_eq_ok row hwidth hsize
      exact ⟨v, hv, v.code_binary⟩
    predictAll_ok_iff := fun _ _ => mapM_eq_ok_iff
    exists_predictAll_ok_iff := by
      intro rows
      constructor
      · rintro ⟨verdicts, hall⟩
        exact exists_of_mapM_eq_ok hall
      · intro hall
        obtain ⟨verdicts, hverdicts, -⟩ := exists_mapM_eq_ok hall
        exact ⟨verdicts, hverdicts⟩
    predictAll_error_iff := fun _ _ => mapM_eq_error_iff_first }

/-- An empty set and one with a code that is not binary are refused, and the set in
between is learnt from. -/
theorem learnAll_contract_forest :
    Contract (fresh .forest .standard)
      [([], []), ([#[0.5, 1.0], #[0.0, 0.25]], [1, 0]), ([#[1.0]], [2])]
      ((fresh .forest .standard).learnAll
        [([], []), ([#[0.5, 1.0], #[0.0, 0.25]], [1, 0]), ([#[1.0]], [2])]).1
      ((fresh .forest .standard).learnAll
        [([], []), ([#[0.5, 1.0], #[0.0, 0.25]], [1, 0]), ([#[1.0]], [2])]).2 :=
  learnAll_contract (make_eq_ok (by decide +kernel) .forest) _

end Classifier

end Credence
