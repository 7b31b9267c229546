/-
What every action makes of a pipeline, in one equation for each.  All later facts
about pipelines rest on these equations and not on how an action goes about it.
-/
import Credence.Pipeline.Run
import Credence.Proofs.Records
import Credence.Proofs.Traversal

namespace Credence

/-- What a pipeline holds right after it has taken some records. -/
def Stage.ofRecords (labels : LabelPair) (records : List Record) : Stage where
  milestone := .loaded
  texts := (usable labels records).map (·.text)
  codes := (usable labels records).map (·.code labels)
  trained? := none
  report? := none

/-- The same stage with a new model and without a report. -/
def Stage.fit (s : Stage) (t : Trained) : Stage :=
  { s with milestone := .fitted, trained? := some t, report? := none }

/-- The same stage with a new report. -/
def Stage.evaluate (s : Stage) (r : TrainingReport) : Stage :=
  { s with milestone := .evaluated, report? := some r }

namespace Pipeline

def withStage (p : Pipeline) (s : Stage) : Pipeline := { p with stage := s }

@[simp] theorem withStage_settings (p : Pipeline) (s : Stage) :
    (p.withStage s).settings = p.settings := rfl

@[simp] theorem withStage_stage (p : Pipeline) (s : Stage) :
    (p.withStage s).stage = s := rfl

@[simp] theorem withStage_withStage (p : Pipeline) (s t : Stage) :
    (p.withStage s).withStage t = p.withStage t := rfl

theorem make_eq_ok_iff {kind : ModelKind} {settings : Settings} {p : Pipeline} :
    make kind settings = .ok p ↔
      p.kind = kind ∧ p.settings = settings ∧ p.stage = .start := by
  unfold make
  split
  · constructor
    · rintro ⟨⟩
      exact ⟨rfl, rfl, rfl⟩
    · rintro ⟨rfl, rfl, hstage⟩
      cases p
      subst hstage
      rfl
  · next problem hproblem =>
      constructor
      · rintro ⟨⟩
      · rintro ⟨rfl, rfl, -⟩
        rw [p.valid] at hproblem
        exact absurd hproblem (by simp)

theorem make_self (p : Pipeline) :
    make p.kind p.settings = .ok (p.withStage .start) :=
  make_eq_ok_iff.mpr ⟨rfl, rfl, rfl⟩

/-- A new pipeline with the standard settings and a seed. -/
def seeded (kind : ModelKind) (seed : UInt64) : Pipeline where
  kind := kind
  settings := Settings.standard.override (some seed) none
  valid := by
    change Settings.standard.problem? = none
    decide
  stage := .start

theorem make_seeded (kind : ModelKind) (seed : UInt64) :
    make kind (seeded kind seed).settings = .ok (seeded kind seed) :=
  make_self (seeded kind seed)

/-- Where two actions succeed one after the other, each one of them does. -/
theorem act_bind_eq_ok {p q : Pipeline} {a : Action α} {f : α → Action β}
    {y : β} (h : p.act (a >>= f) = (.ok y, q)) :
    ∃ x next, p.act a = (.ok x, next) ∧ next.act (f x) = (.ok y, q) := by
  rw [act_bind] at h
  rcases hact : p.act a with ⟨e | x, next⟩
  · rw [hact] at h
    cases h
  · rw [hact] at h
    exact ⟨x, next, rfl, h⟩

section map

variable {p : Pipeline} {a : Action α} {f : α → β}

theorem act_map_eq_ok {y : β} (h : (p.act (f <$> a)).1 = .ok y) :
    ∃ x, p.act a = (.ok x, (p.act (f <$> a)).2) := by
  rw [act_map] at h ⊢
  rcases hact : p.act a with ⟨e | x, next⟩
  · rw [hact] at h
    cases h
  · exact ⟨x, rfl⟩

theorem act_map_eq_error {e : Error} (h : (p.act (f <$> a)).1 = .error e) :
    (p.act a).1 = .error e := by
  rw [act_map] at h
  exact eq_error_of_map_eq_error h

end map

section act

variable (p : Pipeline)

theorem act_load (records : List Record) :
    p.act (load records) =
      if usable p.settings.labels records = [] then
        (.error (.allDropped records.length), p)
      else
        (.ok ⟨(usable p.settings.labels records).length,
            records.length - (usable p.settings.labels records).length⟩,
          p.withStage (.ofRecords p.settings.labels records)) := by
  simp only [load, act_bind, act_get, List.isEmpty_iff, keep_kept, keep_dropped,
    List.map_eq_nil_iff]
  split
  · next h => simp [h]
  · simp [withStage, Stage.ofRecords, Record.code, Function.comp_def,
      Except.map]

/-- What training on the records in use comes to. -/
def learn (fallback : UInt64) : Except Error Trained :=
  Trained.learn p.kind p.settings (p.settings.words fallback) p.stage.texts
    p.stage.codes

theorem act_fit (fallback : UInt64) :
    p.act (fit fallback) =
      if p.stage.milestone = .idle then (.error .noRecords, p)
      else
        match p.learn fallback with
        | .ok t => (.ok t.summary, p.withStage (p.stage.fit t))
        | .error e => (.error e, p) := by
  simp only [fit, act_bind, act_get]
  split
  · rfl
  · simp only [act_bind, act_lift, learn]
    cases Trained.learn p.kind p.settings (p.settings.words fallback)
        p.stage.texts p.stage.codes with
    | ok t => rfl
    | error e => rfl

/-- What scoring the model in use comes to. -/
def score : Except Error TrainingReport :=
  match p.stage.trained? with
  | none => .error .missingModel
  | some t => t.report

theorem act_evaluate :
    p.act evaluate =
      if p.stage.milestone = .idle ∨ p.stage.milestone = .loaded then
        (.error (.notFitted p.stage.name), p)
      else
        match p.score with
        | .ok r => (.ok r, p.withStage (p.stage.evaluate r))
        | .error e => (.error e, p) := by
  simp only [evaluate, act_bind, act_get]
  split
  · rfl
  · cases htrained : p.stage.trained? with
    | none => simp [score, htrained]
    | some t =>
        simp only [act_bind, act_lift, score, htrained]
        cases t.report with
        | ok r => simp [withStage, Stage.evaluate]
        | error e => rfl

theorem act_train (fallback : UInt64) (records : List Record) :
    p.act (train fallback records) =
      match (p.withStage .start).act (cycle fallback records) with
      | (.ok r, next) => (.ok r, next)
      | (.error e, _) => (.error e, p) := by
  simp only [train, act_bind, act_get, act_lift, make_self, attempt]
  rcases (p.withStage .start).act (cycle fallback records) with ⟨e | r, next⟩
  · rfl
  · rfl

end act

end Pipeline

end Credence
