/-
Settings over the standard ones.  An object that holds some fields of some settings,
and nothing else that is a field, is read as the standard settings with just these
fields replaced, and refused if these do not hold: section by section and field by
field, in whatever order the members stand, and whatever others stand among them.
Whatever is read is good enough for everything that is made from settings.
-/
import Credence.Proofs.Pipeline.Actions
import Credence.Proofs.Settings.Sections
import Credence.Proofs.Training

namespace Credence

open Json (HasField HasSection IsCount IsOption)

namespace Settings

/-- The fields of settings, by their sections. -/
inductive Field where
  | ratios (field : Ratios.Field)
  | seed
  | maxSamples
  | labels (field : LabelPair.Field)
  | vectorizer (field : VectorizerSettings.Field)
  | classifier (field : ClassifierSettings.Field)

def overlay (wanted : Field → Bool) (s base : Settings) : Settings where
  ratios := s.ratios.overlay (fun field => wanted (.ratios field)) base.ratios
  seed := if wanted .seed then s.seed else base.seed
  maxSamples := if wanted .maxSamples then s.maxSamples else base.maxSamples
  labels := s.labels.overlay (fun field => wanted (.labels field)) base.labels
  vectorizer :=
    s.vectorizer.overlay (fun field => wanted (.vectorizer field)) base.vectorizer
  classifier :=
    s.classifier.overlay (fun field => wanted (.classifier field)) base.classifier

/-- The members hold the wanted fields, each in its section, and no others.  A
section is an object of its own; members that are no fields may stand anywhere. -/
structure SpeltBy (wanted : Field → Bool) (s : Settings)
    (members : List (String × Json)) : Prop where
  distinct : (members.map Prod.fst).Nodup
  ratios : HasSection members "split" (fun field => wanted (.ratios field))
    (s.ratios.SpeltBy fun field => wanted (.ratios field))
  seed : HasField members "seed" (wanted .seed) (IsOption Json.IsWord s.seed)
  maxSamples :
    HasField members "max_samples" (wanted .maxSamples) (IsOption IsCount s.maxSamples)
  labels : HasSection members "labels" (fun field => wanted (.labels field))
    (s.labels.SpeltBy fun field => wanted (.labels field))
  vectorizer :
    HasSection members "vectorizer" (fun field => wanted (.vectorizer field))
      (s.vectorizer.SpeltBy fun field => wanted (.vectorizer field))
  classifier :
    HasSection members "classifier" (fun field => wanted (.classifier field))
      (s.classifier.SpeltBy fun field => wanted (.classifier field))

section overlay

variable {wanted : Field → Bool} {s : Settings} {members : List (String × Json)}

theorem ofJson?_of_speltBy (h : SpeltBy wanted s members) :
    ofJson? (.obj members) = some (overlay wanted s standard) := by
  have hd := h.distinct
  have hseed (j : Json) (hj : IsOption Json.IsWord s.seed j) :
      j.toOption? Json.toWord? = some s.seed :=
    hj.toOption?_eq (fun _ _ => Json.IsWord.toWord?_eq) rfl
  have hmaxSamples (j : Json) (hj : IsOption IsCount s.maxSamples j) :
      j.toOption? Json.toCount? = some s.maxSamples :=
    hj.toOption?_eq (fun _ _ => IsCount.toCount?_eq) rfl
  refine Option.bind_eq_some_iff.mpr
    ⟨_, Json.fields?_obj hd ["split", "seed", "max_samples", "labels", "vectorizer",
      "classifier"], ?_⟩
  refine Option.bind_eq_some_iff.mpr
    ⟨_, h.ratios.withDefault_eq hd rfl (fun _ => Ratios.ofJson?_of_speltBy)
      fun hnone => Ratios.overlay_eq_base hnone _, ?_⟩
  refine Option.bind_eq_some_iff.mpr ⟨_, h.seed.withDefault_eq hd rfl hseed, ?_⟩
  refine Option.bind_eq_some_iff.mpr
    ⟨_, h.maxSamples.withDefault_eq hd rfl hmaxSamples, ?_⟩
  refine Option.bind_eq_some_iff.mpr
    ⟨_, h.labels.withDefault_eq hd rfl (fun _ => LabelPair.ofJson?_of_speltBy)
      fun hnone => LabelPair.overlay_eq_base hnone _, ?_⟩
  refine Option.bind_eq_some_iff.mpr
    ⟨_, h.vectorizer.withDefault_eq hd rfl
      (fun _ => VectorizerSettings.ofJson?_of_speltBy)
      fun hnone => VectorizerSettings.overlay_eq_base hnone _, ?_⟩
  refine Option.bind_eq_some_iff.mpr
    ⟨_, h.classifier.withDefault_eq hd rfl
      (fun _ => ClassifierSettings.ofJson?_of_speltBy)
      fun hnone => ClassifierSettings.overlay_eq_base hnone _, ?_⟩
  rfl

/-- The text is read as the overlay where that holds, and refused with what is wrong
with it otherwise. -/
theorem read_of_speltBy (h : SpeltBy wanted s members) {text : String}
    (htext : Json.read? text = some (.obj members)) :
    read text
      = checked (overlay wanted s standard).problem? (overlay wanted s standard) := by
  rw [read, htext]
  dsimp only
  rw [decode, ofJson?_of_speltBy h]

end overlay

/-- The settings are good for whatever is made from settings. -/
structure Usable (s : Settings) : Prop where
  pipeline (kind : ModelKind) : ∃ p, Pipeline.make kind s = .ok p
    ∧ p.kind = kind ∧ p.settings = s ∧ p.stage = .start
  classifier (kind : ModelKind) :
    Classifier.make kind s.classifier = .ok (.fresh kind s.classifier)
  vectorizer : Vectorizer.make s.vectorizer = .ok (.fresh s.vectorizer)
  ratios : checked s.ratios.problem? s.ratios = .ok s.ratios
  splitter {α β : Type} (w : Random.Words) (items : List α) (labels : List β) :
    items.length = labels.length →
      ∃ parts, Split.make s.ratios s.maxSamples w items labels = .ok parts

theorem usable_of_problem?_eq_none {s : Settings} (h : s.problem? = none) :
    Usable s where
  pipeline kind :=
    ⟨⟨kind, s, h, .start⟩, Pipeline.make_eq_ok_iff.mpr ⟨rfl, rfl, rfl⟩, rfl, rfl, rfl⟩
  classifier := Classifier.make_eq_ok (classifier_problem?_eq_none h)
  vectorizer := Vectorizer.make_eq_ok (vectorizer_problem?_eq_none h)
  ratios := by rw [ratios_problem?_eq_none h]; rfl
  splitter w _ _ hlength :=
    ⟨_, Split.make_eq_ok _ w (ratios_problem?_eq_none h) hlength⟩

theorem problem?_eq_none_of_read_eq_ok {text : String} {s : Settings}
    (h : read text = .ok s) : s.problem? = none := by
  rw [read] at h
  split at h
  · next j _ =>
      rw [decode] at h
      split at h
      · next t _ =>
          have heq : t = s := eq_of_checked_eq_ok h
          rw [heq] at h
          cases hproblem : s.problem? with
          | none => rfl
          | some problem => rw [hproblem] at h; cases h
      · cases h
  · cases h

/-- Where a text spells some fields of some settings, it is read as the standard
settings with these fields replaced if they hold, and refused for what is wrong with
them otherwise.  All settings that are ever read are good for whatever is made from
settings. -/
theorem read_overlay :
    (∀ (c : Settings) (wanted : Field → Bool) (members : List (String × Json))
      (text : String), c.SpeltBy wanted members →
      Json.read? text = some (.obj members) →
      ((c.overlay wanted standard).problem? = none →
        read text = .ok (c.overlay wanted standard))
      ∧ ∀ problem, (c.overlay wanted standard).problem? = some problem →
        read text = .error (.badSetting problem))
    ∧ ∀ (text : String) (s : Settings), read text = .ok s → s.Usable := by
  constructor
  · intro c wanted members text hspelt htext
    have hread := read_of_speltBy hspelt htext
    constructor
    · intro hnone
      rw [hread, hnone]
      rfl
    · intro problem hproblem
      rw [hread, hproblem]
      rfl
  · intro text s hread
    exact usable_of_problem?_eq_none (problem?_eq_none_of_read_eq_ok hread)

section oneNeighbour

/-- The standard settings, but for one share and one neighbour. -/
def oneNeighbour : Settings :=
  { standard with
    ratios := { Ratios.standard with train := 0.8 }
    classifier := { ClassifierSettings.standard with nearest := ⟨1⟩ } }

/-- The fields that are not standard there. -/
def oneNeighbourFields : Field → Bool
  | .ratios .train => true
  | .classifier (.nearest .neighbours) => true
  | _ => false

/-- The members of an object that spells these fields, with an empty section and a
member that is no field. -/
def oneNeighbourMembers : List (String × Json) :=
  [("classifier", .obj [("knn", .obj [("k", .num ⟨false, ['1'], [], none⟩)]),
      ("note", .null)]),
    ("split", .obj [("train", .num ⟨false, ['0'], ['8'], none⟩)]),
    ("labels", .obj [])]

theorem speltBy_oneNeighbourMembers :
    oneNeighbour.SpeltBy oneNeighbourFields oneNeighbourMembers where
  distinct := by decide
  ratios := .inl ⟨_, .tail _ (.head _),
    { distinct := by decide
      train := ⟨_, .head _, _, rfl, by decide +kernel⟩
      validation := (by decide : "validation" ∉ ["train"]) }⟩
  seed := (by decide : "seed" ∉ ["classifier", "split", "labels"])
  maxSamples := (by decide : "max_samples" ∉ ["classifier", "split", "labels"])
  labels := .inl ⟨_, .tail _ (.tail _ (.head _)),
    { distinct := by decide
      positive := (by decide : "positive" ∉ [])
      negative := (by decide : "negative" ∉ []) }⟩
  vectorizer := .inr ⟨by decide, fun _ => rfl⟩
  classifier := .inl ⟨_, .head _,
    { distinct := by decide
      nearest := .inl ⟨_, .head _,
        { distinct := by decide
          neighbours := ⟨_, .head _, _, rfl, by decide⟩ }⟩
      logistic := .inr ⟨by decide, fun _ => rfl⟩
      tree := .inr ⟨by decide, fun _ => rfl⟩
      forest := .inr ⟨by decide, fun _ => rfl⟩ }⟩

/-- The object in a text. -/
def oneNeighbourText : String :=
  "\x7b\"classifier\":\x7b\"knn\":\x7b\"k\":1\x7d,\"note\":null\x7d,\"split\":\x7b\"train\":0.8\x7d,\"labels\":\x7b\x7d\x7d"

theorem read_oneNeighbour :
    read oneNeighbourText = .ok oneNeighbour ∧ oneNeighbour.Usable := by
  have htext : Json.read? oneNeighbourText = some (.obj oneNeighbourMembers) := by
    change Json.read? (String.ofList _) = _
    rw [Json.read?, String.toList_ofList]
    rfl
  have hread : read oneNeighbourText = .ok oneNeighbour :=
    (read_overlay.1 oneNeighbour oneNeighbourFields oneNeighbourMembers _
      speltBy_oneNeighbourMembers htext).1 (by decide)
  exact ⟨hread, read_overlay.2 _ _ hread⟩

end oneNeighbour

end Settings

end Credence
