/-
When classifiers learn and when they answer.  Every kind learns from all rows of
one width with as many binary codes, and then answers for every row of that width.
-/
import Credence.Classifier
import Credence.Proofs.TrainingSet
import Mathlib.Data.Option.Basic

namespace Credence

namespace Logistic.Descent

variable (d : Descent)

/-- Nothing is written to the weights while the gradient is added up. -/
theorem weights_foldl_addError (cases : List Case) :
    (cases.foldl addError d).weights = d.weights := by
  induction cases generalizing d with
  | nil => rfl
  | cons c cases ih => exact ih (d.addError c)

theorem size_foldl_moveSlope (rate count : Float) (gs : List (Float × Nat)) :
    (gs.foldl (moveSlope rate count) d).slopes.size = d.slopes.size := by
  induction gs generalizing d with
  | nil => rfl
  | cons g gs ih => exact (ih _).trans Array.size_modify

theorem size_step (rate : Float) (cases : List Case) :
    (d.step rate cases).slopes.size = d.slopes.size := by
  have hweights := congrArg (·.slopes.length) (weights_foldl_addError d.clear cases)
  exact (size_foldl_moveSlope _ rate _ _).trans hweights

/-- However far the search goes, there is one slope for every feature. -/
theorem size_search (s : LogisticSettings) (cases : List Case) (left done : Nat) :
    (search s cases left done d).1.slopes.size = d.slopes.size := by
  induction left generalizing done d with
  | zero => rfl
  | succ left ih =>
      have hnext := d.size_step s.learningRate cases
      simp only [search]
      split
      · exact hnext
      · exact (ih _ _).trans hnext

end Logistic.Descent

theorem LogisticModel.width_learn (s : LogisticSettings) (t : TrainingSet) :
    (learn s t).width = t.width := by
  have hsize := (Logistic.Descent.start t.width).size_search s (Logistic.casesOf t)
    s.maxIterations 0
  exact hsize.trans Array.size_replicate

section checkWidth

variable {width : Nat} {row : Features}

theorem checkWidth_eq_ok (h : row.size = width) :
    checkWidth (some width) row = .ok ⟨⟩ := if_pos h

theorem checkWidth_eq_error (h : row.size ≠ width) :
    checkWidth (some width) row = .error (.wrongWidth row.size width) := if_neg h

end checkWidth

theorem ClassifierSettings.problemOf?_eq_none {s : ClassifierSettings}
    (h : s.problem? = none) (kind : ModelKind) : s.problemOf? kind = none := by
  simp only [problem?, Option.orElse_eq_none] at h
  obtain ⟨hnearest, hlogistic, htree, hforest⟩ := h
  cases kind with
  | nearest => exact hnearest
  | logistic => exact hlogistic
  | forest => exact hforest
  | tree => exact htree

/-- A forest has a tree for every number below the number of trees. -/
theorem Forest.length_grow (s : ForestSettings) (t : TrainingSet) :
    (grow s t).length = s.trees := by
  simp [grow]

/-- Settings that hold ask for at least one tree. -/
theorem ForestSettings.trees_ne_zero {s : ForestSettings} (hvalid : s.problem? = none) :
    s.trees ≠ 0 := by
  intro hzero
  simp [problem?, hzero] at hvalid

theorem ForestClassifier.isEmpty_trees_store {c : ForestClassifier}
    (hvalid : c.settings.problem? = none) (t : TrainingSet) :
    (c.store t).trees.isEmpty = false := by
  rw [List.isEmpty_eq_false_iff, ← List.length_pos_iff, store,
    Forest.length_grow]
  exact Nat.pos_of_ne_zero (ForestSettings.trees_ne_zero hvalid)

namespace Classifier

def problem? : Classifier → Option InvalidSetting
  | nearest c => c.settings.problem?
  | logistic c => c.settings.problem?
  | forest c => c.settings.problem?
  | tree c => c.settings.problem?

/-- The same classifier after it has learnt from a training set. -/
def store (t : TrainingSet) : Classifier → Classifier
  | nearest c => nearest (c.store t)
  | logistic c => logistic (c.store t)
  | forest c => forest (c.store t)
  | tree c => tree (c.store t)

theorem problem?_fresh (kind : ModelKind) (s : ClassifierSettings) :
    (fresh kind s).problem? = s.problemOf? kind := by
  cases kind <;> rfl

theorem make_eq_ok_iff {kind : ModelKind} {s : ClassifierSettings}
    {c : Classifier} :
    make kind s = .ok c ↔ s.problemOf? kind = none ∧ c = fresh kind s := by
  rw [make]
  cases s.problemOf? kind with
  | none => simp [checked, eq_comm]
  | some problem => simp [checked]

theorem make_eq_ok {s : ClassifierSettings} (h : s.problem? = none)
    (kind : ModelKind) : make kind s = .ok (fresh kind s) :=
  make_eq_ok_iff.mpr ⟨ClassifierSettings.problemOf?_eq_none h kind, rfl⟩

section store

variable (c : Classifier) (t u : TrainingSet)

/-- Nothing is left of what was learnt before. -/
@[simp] theorem store_store : (c.store t).store u = c.store u := by
  cases c <;> rfl

@[simp] theorem width?_store : (c.store t).width? = some t.width := by
  cases c with
  | nearest c => rfl
  | logistic c => exact congrArg some (LogisticModel.width_learn c.settings t)
  | forest c => rfl
  | tree c => rfl

/-- Learning is the same for all kinds, but for what is learnt. -/
theorem learn_eq (rows : List Features) (codes : List Nat) :
    c.learn rows codes =
      match TrainingSet.make rows codes with
      | .ok t => (.ok ⟨⟩, c.store t)
      | .error e => (.error e, c) := by
  cases c <;>
    simp only [learn, Learning.act_fit] <;>
    cases TrainingSet.make rows codes <;> rfl

theorem fit_eq (rows : List Features) (codes : List Nat) :
    c.fit rows codes =
      (TrainingSet.make rows codes).map fun t => c.store t := by
  rw [fit, learn_eq]
  cases TrainingSet.make rows codes with
  | ok t => rfl
  | error e => rfl

theorem fit_nil : c.fit [] [] = .error .emptyTrainingSet := by
  rw [fit_eq]
  rfl

/-- The class of a row, if all that is known was learnt from a training set. -/
def answer (row : Features) : Classifier → Verdict
  | nearest c => Nearest.classify c.settings t.samples row
  | logistic c =>
      if (LogisticModel.learn c.settings t).probability row ≥ 0.5 then .positive
      else .negative
  | forest c => Forest.classify (Forest.grow c.settings t) row
  | tree c =>
      (Growth.grow c.settings (List.range t.width) t.samples).classify row

variable {c}

theorem isFitted_store (hvalid : c.problem? = none) :
    (c.store t).isFitted = true := by
  cases c with
  | nearest c => rfl
  | logistic c => rfl
  | tree c => rfl
  | forest c =>
      rw [store, isFitted, ForestClassifier.isFitted,
        ForestClassifier.isEmpty_trees_store hvalid]
      rfl

/-- With settings that hold, every kind answers for the rows of one width. -/
theorem predict_store (hvalid : c.problem? = none) (row : Features) :
    (c.store t).predict row =
      (checkWidth (some t.width) row).map fun _ => c.answer t row := by
  -- the check comes first; what each kind looks up after it is there
  cases c with
  | nearest c =>
      change (checkWidth (some t.width) row >>= fun _ => _) = _
      cases checkWidth (some t.width) row with
      | ok _ => rfl
      | error e => rfl
  | logistic c =>
      have hwidth : (c.store t).width? = some t.width :=
        width?_store (logistic c) t
      rw [store, predict, LogisticClassifier.predict,
        LogisticClassifier.probability, hwidth]
      cases checkWidth (some t.width) row with
      | ok _ => rfl
      | error e => rfl
  | forest c =>
      have htrees := ForestClassifier.isEmpty_trees_store hvalid t
      rw [store, predict, ForestClassifier.predict, htrees]
      change (checkWidth (some t.width) row >>= fun _ => _) = _
      cases checkWidth (some t.width) row with
      | ok _ => rfl
      | error e => rfl
  | tree c =>
      change (checkWidth (some t.width) row >>= fun _ => _) = _
      cases checkWidth (some t.width) row with
      | ok _ => rfl
      | error e => rfl

/-- What was learnt from a training set answers for rows that are as wide. -/
theorem predict_learn (hvalid : c.problem? = none) {rows : List Features}
    {codes : List Nat} (haccepted : TrainingSet.make rows codes = .ok t) {row : Features}
    (hrow : row.size = t.width) :
    (c.learn rows codes).2.predict row = .ok (c.answer t row) := by
  rw [learn_eq, haccepted]
  exact (predict_store t hvalid row).trans (by rw [checkWidth_eq_ok hrow]; rfl)

end store

section fresh

variable (kind : ModelKind) (s : ClassifierSettings)

theorem isFitted_fresh : (fresh kind s).isFitted = false := by
  cases kind <;> rfl

theorem width?_fresh : (fresh kind s).width? = none := by
  cases kind <;> rfl

theorem predict_fresh (row : Features) :
    (fresh kind s).predict row = .error .unfittedClassifier := by
  cases kind <;> rfl

end fresh

/-- A classifier that gives a class to every row of some width. -/
structure Expects (c : Classifier) (width : Nat) : Prop where
  width?_eq : c.width? = some width
  exists_predict_eq_ok : ∀ row : Features, row.size = width →
    ∃ v, c.predict row = .ok v

theorem expects_store {c : Classifier} (hvalid : c.problem? = none)
    (t : TrainingSet) : (c.store t).Expects t.width where
  width?_eq := c.width?_store t
  exists_predict_eq_ok := by
    intro row hrow
    refine ⟨c.answer t row, ?_⟩
    rw [predict_store t hvalid, checkWidth_eq_ok hrow]
    rfl

/-- A classifier that learns from rows of one width expects rows of that width. -/
theorem exists_fit_eq_ok {c : Classifier} (hvalid : c.problem? = none)
    {rows : List Features} {codes : List Nat} {width : Nat}
    (h : Learnable rows codes) (hwidth : ∀ row ∈ rows, row.size = width) :
    ∃ fitted, c.fit rows codes = .ok fitted ∧ fitted.Expects width := by
  obtain ⟨t, ht, hsize⟩ := TrainingSet.exists_make_eq_ok h
  obtain ⟨row, hrow⟩ := List.exists_mem_of_ne_nil rows h.rows_ne_nil
  obtain rfl : t.width = width := (hsize row hrow).symm.trans (hwidth row hrow)
  refine ⟨c.store t, ?_, expects_store hvalid t⟩
  rw [fit_eq, ht]
  rfl

/-- A fitted classifier gives a class to each of some rows of its width. -/
theorem Expects.exists_predictAll_eq_ok {c : Classifier} {width : Nat}
    (hc : c.Expects width) {rows : List Features}
    (hwidth : ∀ row ∈ rows, row.size = width) :
    ∃ verdicts, c.predictAll rows = .ok verdicts ∧
      verdicts.length = rows.length :=
  exists_mapM_eq_ok fun row hrow =>
    hc.exists_predict_eq_ok row (hwidth row hrow)

end Classifier

end Credence
