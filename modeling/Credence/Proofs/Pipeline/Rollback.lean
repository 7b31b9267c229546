/-
An operation that fails leaves no trace: a run in which some operations fail comes
to the same as the run of those that succeed.
-/
import Credence.Proofs.Pipeline.Actions

namespace Credence

theorem Settings.words_seeded {s : Settings} (hseed : s.seed.isSome)
    (fallback other : UInt64) : s.words fallback = s.words other := by
  obtain ⟨seed, hseed⟩ := Option.isSome_iff_exists.mp hseed
  simp [words, hseed]

namespace Pipeline

/-- The action changes neither the kind nor the settings of a pipeline. -/
def Steady (a : Action α) : Prop :=
  ∀ p : Pipeline, ∃ s, (p.act a).2 = p.withStage s

/-- The action leaves a pipeline on which it fails as it was. -/
def Atomic (a : Action α) : Prop :=
  ∀ (p : Pipeline) (e : Error), (p.act a).1 = .error e → (p.act a).2 = p

theorem Steady.settings_eq {a : Action α} (ha : Steady a) (p : Pipeline) :
    (p.act a).2.settings = p.settings := by
  obtain ⟨s, hs⟩ := ha p
  rw [hs]
  rfl

theorem Steady.bind {a : Action α} {f : α → Action β} (ha : Steady a)
    (hf : ∀ x, Steady (f x)) : Steady (a >>= f) := by
  intro p
  obtain ⟨s, hs⟩ := ha p
  rw [act_bind]
  rcases h : p.act a with ⟨e | x, next⟩
  · exact ⟨s, by rw [← hs, h]⟩
  · have hnext : next = p.withStage s := by rw [← hs, h]
    obtain ⟨t, ht⟩ := hf x next
    exact ⟨t, by rw [ht, hnext, withStage_withStage]⟩

theorem Steady.map {a : Action α} (ha : Steady a) (f : α → β) :
    Steady (f <$> a) := by
  intro p
  rw [act_map]
  exact ha p

theorem Atomic.map {a : Action α} (ha : Atomic a) (f : α → β) :
    Atomic (f <$> a) := by
  intro p e h
  rw [act_map]
  exact ha p e (act_map_eq_error h)

theorem load_steady (records : List Record) : Steady (load records) := by
  intro p
  rw [act_load]
  split
  · exact ⟨p.stage, rfl⟩
  · exact ⟨_, rfl⟩

theorem load_atomic (records : List Record) : Atomic (load records) := by
  intro p e h
  rw [act_load] at h ⊢
  split at h
  · next hnone => rw [if_pos hnone]
  · cases h

theorem fit_steady (fallback : UInt64) : Steady (fit fallback) := by
  intro p
  rw [act_fit]
  split
  · exact ⟨p.stage, rfl⟩
  · cases p.learn fallback with
    | ok t => exact ⟨_, rfl⟩
    | error e => exact ⟨p.stage, rfl⟩

/-- Training may fail after the records were split and their terms were learnt;
nothing of that is written. -/
theorem fit_atomic (fallback : UInt64) : Atomic (fit fallback) := by
  intro p e h
  rw [act_fit] at h ⊢
  by_cases hidle : p.stage.milestone = .idle
  · rw [if_pos hidle]
  · rw [if_neg hidle] at h ⊢
    cases hlearn : p.learn fallback with
    | ok t => rw [hlearn] at h; cases h
    | error e => rfl

theorem evaluate_steady : Steady evaluate := by
  intro p
  rw [act_evaluate]
  split
  · exact ⟨p.stage, rfl⟩
  · cases p.score with
    | ok r => exact ⟨_, rfl⟩
    | error e => exact ⟨p.stage, rfl⟩

theorem evaluate_atomic : Atomic evaluate := by
  intro p e h
  rw [act_evaluate] at h ⊢
  by_cases hearly :
      p.stage.milestone = .idle ∨ p.stage.milestone = .loaded
  · rw [if_pos hearly]
  · rw [if_neg hearly] at h ⊢
    cases hscore : p.score with
    | ok r => rw [hscore] at h; cases h
    | error e => rfl

theorem cycle_steady (fallback : UInt64) (records : List Record) :
    Steady (cycle fallback records) :=
  (load_steady records).bind fun _ =>
    (fit_steady fallback).bind fun _ => evaluate_steady

theorem train_steady (fallback : UInt64) (records : List Record) :
    Steady (train fallback records) := by
  intro p
  obtain ⟨s, hs⟩ := cycle_steady fallback records (p.withStage .start)
  rw [act_train]
  rcases h : (p.withStage .start).act (cycle fallback records) with
    ⟨e | r, next⟩
  · exact ⟨p.stage, rfl⟩
  · rw [h] at hs
    exact ⟨s, hs⟩

/-- A cycle itself is not atomic, since it may fail with new records in place.  It
goes on with a new pipeline, and that one is given up. -/
theorem train_atomic (fallback : UInt64) (records : List Record) :
    Atomic (train fallback records) := by
  intro p e h
  rw [act_train] at h ⊢
  rcases hcycle : (p.withStage .start).act (cycle fallback records) with
    ⟨e | r, next⟩
  · rfl
  · rw [hcycle] at h
    cases h

theorem perform_steady (p : Pipeline) (fallback : UInt64) (op : Operation) :
    ∃ s, (p.perform fallback op).2 = p.withStage s := by
  cases op with
  | load records => exact (load_steady records).map Answer.loaded p
  | fit => exact (fit_steady fallback).map Answer.fitted p
  | evaluate => exact evaluate_steady.map Answer.scored p
  | train records => exact (train_steady fallback records).map Answer.scored p
  | predict text => exact ⟨p.stage, rfl⟩
  | predictAll texts => exact ⟨p.stage, rfl⟩

theorem perform_settings (p : Pipeline) (fallback : UInt64) (op : Operation) :
    (p.perform fallback op).2.settings = p.settings := by
  obtain ⟨s, hs⟩ := perform_steady p fallback op
  rw [hs]
  rfl

theorem perform_of_error {p : Pipeline} {fallback : UInt64} {op : Operation}
    {e : Error} (h : (p.perform fallback op).1 = .error e) :
    (p.perform fallback op).2 = p := by
  cases op with
  | load records => exact (load_atomic records).map Answer.loaded p e h
  | fit => exact (fit_atomic fallback).map Answer.fitted p e h
  | evaluate => exact evaluate_atomic.map Answer.scored p e h
  | train records => exact (train_atomic fallback records).map Answer.scored p e h
  | predict text => rfl
  | predictAll texts => rfl

section seeded

variable {p : Pipeline} (hseed : p.settings.seed.isSome)
  (fallback other : UInt64)

include hseed

theorem learn_seeded : p.learn fallback = p.learn other := by
  rw [learn, learn, Settings.words_seeded hseed fallback other]

theorem fit_seeded : p.act (fit fallback) = p.act (fit other) := by
  rw [act_fit, act_fit, learn_seeded hseed fallback other]

theorem cycle_seeded (records : List Record) :
    p.act (cycle fallback records) = p.act (cycle other records) := by
  obtain ⟨s, hs⟩ := load_steady records p
  simp only [cycle, act_bind]
  rcases h : p.act (load records) with ⟨e | x, next⟩
  · rfl
  · have hnext : next = p.withStage s := by rw [← hs, h]
    have hkept : next.settings.seed.isSome := by rwa [hnext]
    simp only [fit_seeded hkept fallback other]

/-- With a seed in the settings, no other seed counts. -/
theorem perform_seeded (op : Operation) :
    p.perform fallback op = p.perform other op := by
  cases op with
  | load records => rfl
  | fit => simp only [perform, act_map, fit_seeded hseed fallback other]
  | evaluate => rfl
  | train records =>
      have hstart : (p.withStage .start).settings.seed.isSome := hseed
      simp only [perform, act_map, act_train,
        cycle_seeded hstart fallback other records]
  | predict text => rfl
  | predictAll texts => rfl

end seeded

theorem run_cons (p : Pipeline) (fallback : UInt64) (op : Operation)
    (ops : List Operation) :
    p.run fallback (op :: ops) =
      ((p.perform fallback op).1 ::
          ((p.perform fallback op).2.run fallback ops).1,
        ((p.perform fallback op).2.run fallback ops).2) := rfl

theorem run_steady (p : Pipeline) (fallback : UInt64) (ops : List Operation) :
    ∃ s, (p.run fallback ops).2 = p.withStage s := by
  induction ops generalizing p with
  | nil => exact ⟨p.stage, rfl⟩
  | cons op ops ih =>
      obtain ⟨s, hs⟩ := perform_steady p fallback op
      obtain ⟨t, ht⟩ := ih (p.withStage s)
      exact ⟨t, by rw [run_cons, hs, ht, withStage_withStage]⟩

/-- The operations that were answered without an error. -/
def succeeded (ops : List Operation) (answers : List (Except Error Answer)) :
    List Operation :=
  ((ops.zip answers).filter (·.2.isOk)).map (·.1)

/-- Without the operations that fail, all others are answered alike, and the
pipeline ends up the same. -/
theorem run_succeeded (p : Pipeline) (hseed : p.settings.seed.isSome)
    (fallback other : UInt64) (ops : List Operation) :
    p.run other (succeeded ops (p.run fallback ops).1) =
      ((p.run fallback ops).1.filter (·.isOk), (p.run fallback ops).2) := by
  induction ops generalizing p with
  | nil => rfl
  | cons op ops ih =>
      have hnext : (p.perform fallback op).2.settings.seed.isSome := by
        rw [perform_settings]
        exact hseed
      have htail := ih (p.perform fallback op).2 hnext
      rw [run_cons]
      cases hanswer : (p.perform fallback op).1 with
      | error e =>
          have hsame : (p.perform fallback op).2 = p := perform_of_error hanswer
          rw [hsame] at htail ⊢
          exact htail
      | ok answer =>
          simp only [succeeded, List.zip_cons_cons, Except.isOk, Except.toBool,
            List.filter_cons_of_pos, List.map_cons] at htail ⊢
          rw [run_cons, perform_seeded hseed other fallback, htail, hanswer]

/-- Here the first training and the scoring fail. -/
theorem run_succeeded_seeded :
    (seeded .tree 7).settings.seed.isSome ∧
      (seeded .tree 7).run 1 (succeeded
          [.fit, .load [⟨"the market rose", "real"⟩], .evaluate, .predict " "]
          ((seeded .tree 7).run 0 [.fit, .load [⟨"the market rose", "real"⟩],
            .evaluate, .predict " "]).1) =
        (((seeded .tree 7).run 0 [.fit, .load [⟨"the market rose", "real"⟩],
            .evaluate, .predict " "]).1.filter (·.isOk),
          ((seeded .tree 7).run 0 [.fit, .load [⟨"the market rose", "real"⟩],
            .evaluate, .predict " "]).2) :=
  ⟨rfl, run_succeeded (seeded .tree 7) rfl 0 1 _⟩

end Pipeline

end Credence
