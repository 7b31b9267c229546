/-
Only the texts and codes of the records that are accepted matter.  Rejected records
and the spelling of labels leave no trace, and pipelines whose settings name the
classes differently say the same in different words.
-/
import Credence.Proofs.Pipeline.Failures

namespace Credence

/-- A pipeline holds nothing of the records but what it has accepted of them. -/
theorem Stage.ofRecords_eq (labels : LabelPair) (records : List Record) :
    Stage.ofRecords labels records =
      ⟨.loaded, (accepted labels records).map (·.1),
        (accepted labels records).map (·.2), none, none⟩ := by
  rw [map_fst_accepted, map_snd_accepted]
  rfl

namespace LabelPair

/-- The name that another pair has for the class of a label.  What is no label of the
first pair stays as it is. -/
def rename (p q : LabelPair) (label : String) : String :=
  match p.encode? label with
  | some v => q.decode v
  | none => label

theorem rename_decode {p : LabelPair} (h : p.problem? = none) (q : LabelPair)
    (v : Verdict) : p.rename q (p.decode v) = q.decode v := by
  rw [rename, encode?_decode h]

end LabelPair

namespace Pipeline

/-- The same answer with other names for the classes. -/
def Answer.rename (p q : LabelPair) : Answer → Answer
  | .label name => .label (p.rename q name)
  | .labels names => .labels (names.map (p.rename q))
  | answer => answer

/-- Two pipelines that differ at most in the names of the classes. -/
structure SameButLabels (p q : Pipeline) : Prop where
  kind_eq : q.kind = p.kind
  settings_eq : q.settings = { p.settings with labels := q.settings.labels }
  stage_eq : q.stage = p.stage

/-- The operation takes no records. -/
def Operation.TakesNone : Operation → Prop
  | .load _ | .train _ => False
  | .fit | .evaluate | .predict _ | .predictAll _ => True

section same

variable {p q : Pipeline} (h : p.SameButLabels q)
  (hseed : p.settings.seed.isSome) (fallback other : UInt64)

include h

theorem SameButLabels.withStage (s : Stage) :
    (p.withStage s).SameButLabels (q.withStage s) where
  kind_eq := h.kind_eq
  settings_eq := h.settings_eq
  stage_eq := rfl

theorem SameButLabels.predict_eq (text : String) :
    q.predict text =
      (p.predict text).map
        (p.settings.labels.rename q.settings.labels) := by
  have hlabels := Settings.labels_problem?_eq_none p.valid
  rw [predict, predict, h.kind_eq, h.stage_eq]
  cases p.stage.trained? with
  | none => rfl
  | some t =>
      dsimp only
      by_cases hblank : Text.isBlankText text = true
      · rw [if_pos hblank, if_pos hblank]
        rfl
      · rw [if_neg hblank, if_neg hblank]
        cases t.classify text with
        | error e => rfl
        | ok v =>
            exact congrArg Except.ok
              (LabelPair.rename_decode hlabels q.settings.labels v).symm

theorem SameButLabels.score_eq : q.score = p.score := by
  rw [score, score, h.stage_eq]

include hseed

/-- Nothing in training looks at the names of the classes. -/
theorem SameButLabels.learn_eq : q.learn other = p.learn fallback := by
  have hsettings := h.settings_eq
  have hwords := Settings.words_seeded hseed fallback other
  generalize q.settings.labels = labels at hsettings
  rw [learn, learn, h.kind_eq, h.stage_eq, hsettings, hwords]
  rfl

theorem SameButLabels.perform {op : Operation} (hop : op.TakesNone) :
    (q.perform other op).1 = (p.perform fallback op).1.map
        (·.rename p.settings.labels q.settings.labels) ∧
      (p.perform fallback op).2.SameButLabels (q.perform other op).2 := by
  cases op with
  | load records => exact absurd hop id
  | train records => exact absurd hop id
  | fit =>
      simp only [Pipeline.perform, act_map, act_fit, h.stage_eq,
        h.learn_eq hseed fallback other]
      split
      · exact ⟨rfl, h⟩
      · cases p.learn fallback with
        | error e => exact ⟨rfl, h⟩
        | ok t => exact ⟨rfl, h.withStage _⟩
  | evaluate =>
      simp only [Pipeline.perform, act_map, act_evaluate, h.stage_eq, h.score_eq]
      split
      · exact ⟨rfl, h⟩
      · cases p.score with
        | error e => exact ⟨rfl, h⟩
        | ok r => exact ⟨rfl, h.withStage _⟩
  | predict text =>
      refine ⟨?_, h⟩
      rw [Pipeline.perform, Pipeline.perform, h.predict_eq]
      cases p.predict text with
      | error e => rfl
      | ok label => rfl
  | predictAll texts =>
      have hall : q.predict = fun text => (p.predict text).map
          (p.settings.labels.rename q.settings.labels) :=
        funext h.predict_eq
      refine ⟨?_, h⟩
      rw [Pipeline.perform, Pipeline.perform, predictAll, predictAll, hall,
        mapM_map_eq]
      cases texts.mapM p.predict with
      | error e => rfl
      | ok labels => rfl

/-- As long as no records are taken, both answer alike, each with its own names. -/
theorem SameButLabels.run {ops : List Operation}
    (hops : ∀ op ∈ ops, op.TakesNone) :
    (q.run other ops).1 = (p.run fallback ops).1.map
        (·.map (·.rename p.settings.labels q.settings.labels)) ∧
      (p.run fallback ops).2.SameButLabels (q.run other ops).2 := by
  induction ops generalizing p q with
  | nil => exact ⟨rfl, h⟩
  | cons op ops ih =>
      obtain ⟨hanswer, hnext⟩ :=
        h.perform hseed fallback other (hops op List.mem_cons_self)
      have hnextSeed : (p.perform fallback op).2.settings.seed.isSome := by
        rw [perform_settings]
        exact hseed
      obtain ⟨hanswers, hlast⟩ := ih hnext hnextSeed fun op' hop' =>
        hops op' (List.mem_cons_of_mem op hop')
      rw [perform_settings, perform_settings] at hanswers
      rw [run_cons, run_cons, List.map_cons]
      exact ⟨congrArg₂ List.cons hanswer hanswers, hlast⟩

end same

/-- What a pipeline makes of some records, however they are given to it. -/
structure Takes (p : Pipeline) (fallback : UInt64) (records : List Record) :
    Prop where
  /-- The texts stay as they are, and the codes are those of the classes. -/
  load_ok : ∀ summary next, p.act (load records) = (.ok summary, next) →
    next.stage.texts = (accepted p.settings.labels records).map (·.1) ∧
      next.stage.codes = (accepted p.settings.labels records).map (·.2) ∧
      summary.accepted = (accepted p.settings.labels records).length ∧
      summary.accepted + summary.dropped = records.length
  load_error : ∀ e next, p.act (load records) = (.error e, next) →
    accepted p.settings.labels records = [] ∧ e = .allDropped records.length
  train_ok : ∀ report next,
    p.act (train fallback records) = (.ok report, next) →
    next.stage.texts = (accepted p.settings.labels records).map (·.1) ∧
      next.stage.codes = (accepted p.settings.labels records).map (·.2)
  code_eq : ∀ r ∈ usable p.settings.labels records,
    (r.code p.settings.labels = 1 ↔ LabelPair.normalize r.label =
        LabelPair.normalize p.settings.labels.positive) ∧
      (r.code p.settings.labels = 0 ↔ LabelPair.normalize r.label =
        LabelPair.normalize p.settings.labels.negative)
  accept_eq_ok_iff : ∀ r ∈ records, ∀ item,
    r.accept p.settings.labels = .ok item ↔ r.Usable p.settings.labels ∧
      item = (r.text, r.verdict p.settings.labels)
  accept_eq_error : ∀ r ∈ records, ∀ e,
    r.accept p.settings.labels = .error e →
      e.kind = .parseFailure ∧ e.isRecoverable = true

theorem takes (p : Pipeline) (fallback : UInt64) (records : List Record) :
    p.Takes fallback records where
  load_ok := by
    intro summary next h
    have hlife := Lifecycle.of_load h (p.settings.words fallback)
    refine ⟨?_, ?_, ?_⟩
    · rw [hlife.texts_eq, map_fst_accepted]
      rfl
    · rw [hlife.codes_eq, map_snd_accepted]
      rfl
    · have hle : (usable p.settings.labels records).length ≤ records.length :=
        List.length_filter_le _ records
      have hsome := (act_load_eq_ok h).1
      rw [act_load, if_neg hsome] at h
      cases h
      rw [accepted, List.length_map]
      exact ⟨rfl, Nat.add_sub_of_le hle⟩
  load_error := by
    intro e next h
    have hload := (load_error_iff p records e).mp (congrArg Prod.fst h)
    rwa [accepted_eq_nil_iff, usable_eq_nil_iff]
  train_ok := by
    intro report next h
    have hlife := Lifecycle.of_train h
    constructor
    · rw [hlife.texts_eq, map_fst_accepted]
      rfl
    · rw [hlife.codes_eq, map_snd_accepted]
      rfl
  code_eq := by
    intro r hr
    have husable : r.Usable p.settings.labels :=
      of_decide_eq_true (List.mem_filter.mp hr).2
    exact ⟨Record.code_eq_one_iff, Record.code_eq_zero_iff
      (Settings.labels_problem?_eq_none p.valid) husable⟩
  accept_eq_ok_iff := fun _ _ _ => Record.accept_eq_ok_iff
  accept_eq_error := fun _ _ _ => Record.kind_of_accept_eq_error

/-- Two pipelines answer alike after each has been given some records, each with its
own names for the classes. -/
structure AnswerAlike (p q : Pipeline) (records others : List Record) : Prop where
  /-- Both accept as many records, or both accept none. -/
  load_eq :
    (∃ s t, (p.act (load records)).1 = .ok s ∧
        (q.act (load others)).1 = .ok t ∧ s.accepted = t.accepted) ∨
      (p.act (load records)).1 = .error (.allDropped records.length) ∧
        (q.act (load others)).1 = .error (.allDropped others.length)
  stage_eq : (q.act (load others)).2.stage = (p.act (load records)).2.stage
  run_eq : ∀ ops : List Operation, (∀ op ∈ ops, op.TakesNone) →
    ∀ fallback other,
      ((q.act (load others)).2.run other ops).1 =
        ((p.act (load records)).2.run fallback ops).1.map
          (·.map (·.rename p.settings.labels q.settings.labels))

theorem SameButLabels.answerAlike {p q : Pipeline} (h : p.SameButLabels q)
    (hseed : p.settings.seed.isSome) {records others : List Record}
    (haccepted : accepted p.settings.labels records =
      accepted q.settings.labels others) :
    p.AnswerAlike q records others := by
  have hnone : usable p.settings.labels records = [] ↔
      usable q.settings.labels others = [] := by
    rw [← accepted_eq_nil_iff, haccepted, accepted_eq_nil_iff]
  have hlength : (usable p.settings.labels records).length =
      (usable q.settings.labels others).length := by
    have := congrArg List.length haccepted
    rwa [accepted, accepted, List.length_map, List.length_map] at this
  have hstage : Stage.ofRecords q.settings.labels others =
      Stage.ofRecords p.settings.labels records := by
    rw [Stage.ofRecords_eq, Stage.ofRecords_eq, haccepted]
  have hnext : (p.act (load records)).2.SameButLabels
      (q.act (load others)).2 := by
    rw [act_load, act_load]
    by_cases hempty : usable p.settings.labels records = []
    · rw [if_pos hempty, if_pos (hnone.mp hempty)]
      exact h
    · rw [if_neg hempty, if_neg (mt hnone.mpr hempty), hstage]
      exact h.withStage _
  have hsettings := (load_steady records).settings_eq p
  have hsettings' := (load_steady others).settings_eq q
  exact {
    load_eq := by
      rw [act_load, act_load]
      by_cases hempty : usable p.settings.labels records = []
      · rw [if_pos hempty, if_pos (hnone.mp hempty)]
        exact Or.inr ⟨rfl, rfl⟩
      · rw [if_neg hempty, if_neg (mt hnone.mpr hempty)]
        exact Or.inl ⟨_, _, rfl, rfl, hlength⟩
    stage_eq := hnext.stage_eq
    run_eq := by
      intro ops hops fallback other
      have hnextSeed : (p.act (load records)).2.settings.seed.isSome := by
        rwa [hsettings]
      have hrun := (hnext.run hnextSeed fallback other hops).1
      rwa [hsettings, hsettings'] at hrun }

/-- Pipelines accept exactly the records that can be used, and nothing else about
records has an effect.  Two fresh pipelines with a seed whose settings differ at most
in the names of the classes, and which accept the same texts with the same codes, give
the same answers from then on, each with its own names. -/
theorem load_eq_of_accepted_eq :
    (∀ (p : Pipeline) (fallback : UInt64) (records : List Record),
      p.Takes fallback records) ∧
    ∀ (kind : ModelKind) (settings settings' : Settings) (p q : Pipeline)
      (records others : List Record),
      make kind settings = .ok p → make kind settings' = .ok q →
      settings.seed.isSome →
      settings' = { settings with labels := settings'.labels } →
      accepted settings.labels records = accepted settings'.labels others →
      p.AnswerAlike q records others := by
  refine ⟨takes, ?_⟩
  intro kind settings settings' p q records others hmake hmake' hseed hsettings
    haccepted
  obtain ⟨hkind, rfl, hstart⟩ := make_eq_ok_iff.mp hmake
  obtain ⟨hkind', rfl, hstart'⟩ := make_eq_ok_iff.mp hmake'
  have hsame : p.SameButLabels q := {
    kind_eq := hkind'.trans hkind.symm
    settings_eq := hsettings
    stage_eq := hstart'.trans hstart.symm }
  exact hsame.answerAlike hseed haccepted

/-- Other names for the classes. -/
def renamed (kind : ModelKind) (seed : UInt64) : Pipeline where
  kind := kind
  settings :=
    { (seeded kind seed).settings with labels := ⟨"Wahr", "Falsch"⟩ }
  valid := by
    change { Settings.standard with
      labels := LabelPair.mk "Wahr" "Falsch" }.problem? = none
    decide
  stage := .start

/-- The records in between are rejected, and the labels are spelt in several ways. -/
theorem load_eq_of_accepted_eq_renamed :
    (seeded .nearest 7).AnswerAlike (renamed .nearest 7)
      [⟨"the market rose", " REAL"⟩, ⟨" ", "real"⟩,
        ⟨"aliens landed here", "fake"⟩]
      [⟨"the market rose", "wahr"⟩, ⟨"aliens landed here", "FALSCH "⟩,
        ⟨"the senate voted", "real"⟩] :=
  load_eq_of_accepted_eq.2 .nearest _ _ _ _ _ _ (make_seeded .nearest 7)
    (make_self (renamed .nearest 7)) rfl rfl (by decide +kernel)

end Pipeline

end Credence
