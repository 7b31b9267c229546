/-
The sections of the settings.  An object that holds some fields of a section, and
nothing else that is a field, is read as the standard section with just these
fields replaced.
-/
import Credence.Proofs.Json.Members
import Credence.Settings.Json

namespace Credence

open Json (HasField HasSection IsCount IsFloat IsOption)

def Json.IsWord (w : UInt64) (j : Json) : Prop := IsCount w.toNat j

theorem Json.IsWord.toWord?_eq {w : UInt64} {j : Json} (h : Json.IsWord w j) :
    j.toWord? = some w := by
  rw [Json.toWord?, h.toCount?_eq, Option.map_some, UInt64.ofNat_toNat]

theorem Weighting.ofName?_name (w : Weighting) : ofName? w.name = some w := by
  cases w <;> rfl

namespace Ratios

/-- The fields of shares. -/
inductive Field where
  | train
  | validation

/-- Some fields of one pair of shares, and the others of another. -/
def overlay (wanted : Field → Bool) (r base : Ratios) : Ratios where
  train := if wanted .train then r.train else base.train
  validation := if wanted .validation then r.validation else base.validation

/-- The members hold the wanted fields, and no others. -/
structure SpeltBy (wanted : Field → Bool) (r : Ratios)
    (members : List (String × Json)) : Prop where
  distinct : (members.map Prod.fst).Nodup
  train : HasField members "train" (wanted .train) (IsFloat r.train)
  validation :
    HasField members "validation" (wanted .validation) (IsFloat r.validation)

variable {wanted : Field → Bool} {r : Ratios} {members : List (String × Json)}

theorem overlay_eq_base (h : ∀ field, wanted field = false) (base : Ratios) :
    overlay wanted r base = base := by
  simp [overlay, h]

theorem ofJson?_of_speltBy (h : SpeltBy wanted r members) :
    ofJson? (.obj members) = some (overlay wanted r standard) := by
  have hd := h.distinct
  refine Option.bind_eq_some_iff.mpr
    ⟨_, Json.fields?_obj hd ["train", "validation"], ?_⟩
  refine Option.bind_eq_some_iff.mpr
    ⟨_, h.train.withDefault_eq hd rfl fun _ => IsFloat.toFloat?_eq, ?_⟩
  refine Option.bind_eq_some_iff.mpr
    ⟨_, h.validation.withDefault_eq hd rfl fun _ => IsFloat.toFloat?_eq, ?_⟩
  rfl

end Ratios

namespace LabelPair

inductive Field where
  | positive
  | negative

def overlay (wanted : Field → Bool) (p base : LabelPair) : LabelPair where
  positive := if wanted .positive then p.positive else base.positive
  negative := if wanted .negative then p.negative else base.negative

structure SpeltBy (wanted : Field → Bool) (p : LabelPair)
    (members : List (String × Json)) : Prop where
  distinct : (members.map Prod.fst).Nodup
  positive :
    HasField members "positive" (wanted .positive) fun j => j = .str p.positive
  negative :
    HasField members "negative" (wanted .negative) fun j => j = .str p.negative

variable {wanted : Field → Bool} {p : LabelPair} {members : List (String × Json)}

theorem overlay_eq_base (h : ∀ field, wanted field = false) (base : LabelPair) :
    overlay wanted p base = base := by
  simp [overlay, h]

theorem ofJson?_of_speltBy (h : SpeltBy wanted p members) :
    ofJson? (.obj members) = some (overlay wanted p standard) := by
  have hd := h.distinct
  refine Option.bind_eq_some_iff.mpr
    ⟨_, Json.fields?_obj hd ["positive", "negative"], ?_⟩
  refine Option.bind_eq_some_iff.mpr
    ⟨_, h.positive.withDefault_eq hd rfl fun _ => congrArg Json.toText?, ?_⟩
  refine Option.bind_eq_some_iff.mpr
    ⟨_, h.negative.withDefault_eq hd rfl fun _ => congrArg Json.toText?, ?_⟩
  rfl

end LabelPair

namespace VectorizerSettings

inductive Field where
  | weighting
  | minLength
  | normalizeTweets

def overlay (wanted : Field → Bool) (s base : VectorizerSettings) :
    VectorizerSettings where
  weighting := if wanted .weighting then s.weighting else base.weighting
  minLength := if wanted .minLength then s.minLength else base.minLength
  normalizeTweets :=
    if wanted .normalizeTweets then s.normalizeTweets else base.normalizeTweets

structure SpeltBy (wanted : Field → Bool) (s : VectorizerSettings)
    (members : List (String × Json)) : Prop where
  distinct : (members.map Prod.fst).Nodup
  weighting :
    HasField members "idf" (wanted .weighting) fun j => j = .str s.weighting.name
  minLength :
    HasField members "min_token_length" (wanted .minLength) (IsCount s.minLength)
  normalizeTweets :
    HasField members "normalize_tweets" (wanted .normalizeTweets)
      fun j => j = .bool s.normalizeTweets

variable {wanted : Field → Bool} {s : VectorizerSettings}
  {members : List (String × Json)}

theorem overlay_eq_base (h : ∀ field, wanted field = false)
    (base : VectorizerSettings) : overlay wanted s base = base := by
  simp [overlay, h]

theorem ofJson?_of_speltBy (h : SpeltBy wanted s members) :
    ofJson? (.obj members) = some (overlay wanted s standard) := by
  have hd := h.distinct
  have hweighting (j : Json) (hj : j = .str s.weighting.name) :
      Weighting.ofJson? j = some s.weighting := by
    rw [hj]
    exact Weighting.ofName?_name s.weighting
  refine Option.bind_eq_some_iff.mpr
    ⟨_, Json.fields?_obj hd ["idf", "min_token_length", "normalize_tweets"], ?_⟩
  refine Option.bind_eq_some_iff.mpr
    ⟨_, h.weighting.withDefault_eq hd rfl hweighting, ?_⟩
  refine Option.bind_eq_some_iff.mpr
    ⟨_, h.minLength.withDefault_eq hd rfl fun _ => IsCount.toCount?_eq, ?_⟩
  refine Option.bind_eq_some_iff.mpr
    ⟨_, h.normalizeTweets.withDefault_eq hd rfl fun _ => congrArg Json.toBool?, ?_⟩
  rfl

end VectorizerSettings

namespace NearestSettings

inductive Field where
  | neighbours

def overlay (wanted : Field → Bool) (s base : NearestSettings) :
    NearestSettings where
  neighbours := if wanted .neighbours then s.neighbours else base.neighbours

structure SpeltBy (wanted : Field → Bool) (s : NearestSettings)
    (members : List (String × Json)) : Prop where
  distinct : (members.map Prod.fst).Nodup
  neighbours : HasField members "k" (wanted .neighbours) (IsCount s.neighbours)

variable {wanted : Field → Bool} {s : NearestSettings}
  {members : List (String × Json)}

theorem overlay_eq_base (h : ∀ field, wanted field = false)
    (base : NearestSettings) : overlay wanted s base = base := by
  simp [overlay, h]

theorem ofJson?_of_speltBy (h : SpeltBy wanted s members) :
    ofJson? (.obj members) = some (overlay wanted s standard) := by
  have hd := h.distinct
  refine Option.bind_eq_some_iff.mpr ⟨_, Json.fields?_obj hd ["k"], ?_⟩
  refine Option.bind_eq_some_iff.mpr
    ⟨_, h.neighbours.withDefault_eq hd rfl fun _ => IsCount.toCount?_eq, ?_⟩
  rfl

end NearestSettings

namespace LogisticSettings

inductive Field where
  | learningRate
  | maxIterations
  | tolerance

def overlay (wanted : Field → Bool) (s base : LogisticSettings) :
    LogisticSettings where
  learningRate := if wanted .learningRate then s.learningRate else base.learningRate
  maxIterations :=
    if wanted .maxIterations then s.maxIterations else base.maxIterations
  tolerance := if wanted .tolerance then s.tolerance else base.tolerance

structure SpeltBy (wanted : Field → Bool) (s : LogisticSettings)
    (members : List (String × Json)) : Prop where
  distinct : (members.map Prod.fst).Nodup
  learningRate :
    HasField members "learning_rate" (wanted .learningRate) (IsFloat s.learningRate)
  maxIterations :
    HasField members "max_iterations" (wanted .maxIterations)
      (IsCount s.maxIterations)
  tolerance :
    HasField members "tolerance" (wanted .tolerance) (IsFloat s.tolerance)

variable {wanted : Field → Bool} {s : LogisticSettings}
  {members : List (String × Json)}

theorem overlay_eq_base (h : ∀ field, wanted field = false)
    (base : LogisticSettings) : overlay wanted s base = base := by
  simp [overlay, h]

theorem ofJson?_of_speltBy (h : SpeltBy wanted s members) :
    ofJson? (.obj members) = some (overlay wanted s standard) := by
  have hd := h.distinct
  refine Option.bind_eq_some_iff.mpr
    ⟨_, Json.fields?_obj hd ["learning_rate", "max_iterations", "tolerance"], ?_⟩
  refine Option.bind_eq_some_iff.mpr
    ⟨_, h.learningRate.withDefault_eq hd rfl fun _ => IsFloat.toFloat?_eq, ?_⟩
  refine Option.bind_eq_some_iff.mpr
    ⟨_, h.maxIterations.withDefault_eq hd rfl fun _ => IsCount.toCount?_eq, ?_⟩
  refine Option.bind_eq_some_iff.mpr
    ⟨_, h.tolerance.withDefault_eq hd rfl fun _ => IsFloat.toFloat?_eq, ?_⟩
  rfl

end LogisticSettings

namespace GrowthSettings

inductive Field where
  | maxDepth
  | minSplit

def overlay (wanted : Field → Bool) (s base : GrowthSettings) :
    GrowthSettings where
  maxDepth := if wanted .maxDepth then s.maxDepth else base.maxDepth
  minSplit := if wanted .minSplit then s.minSplit else base.minSplit

structure SpeltBy (wanted : Field → Bool) (s : GrowthSettings)
    (members : List (String × Json)) : Prop where
  distinct : (members.map Prod.fst).Nodup
  maxDepth : HasField members "max_depth" (wanted .maxDepth) (IsCount s.maxDepth)
  minSplit :
    HasField members "min_samples_split" (wanted .minSplit) (IsCount s.minSplit)

variable {wanted : Field → Bool} {s : GrowthSettings}
  {members : List (String × Json)}

theorem overlay_eq_base (h : ∀ field, wanted field = false)
    (base : GrowthSettings) : overlay wanted s base = base := by
  simp [overlay, h]

theorem ofJson?_of_speltBy (h : SpeltBy wanted s members) :
    ofJson? (.obj members) = some (overlay wanted s standard) := by
  have hd := h.distinct
  refine Option.bind_eq_some_iff.mpr
    ⟨_, Json.fields?_obj hd ["max_depth", "min_samples_split"], ?_⟩
  refine Option.bind_eq_some_iff.mpr
    ⟨_, h.maxDepth.withDefault_eq hd rfl fun _ => IsCount.toCount?_eq, ?_⟩
  refine Option.bind_eq_some_iff.mpr
    ⟨_, h.minSplit.withDefault_eq hd rfl fun _ => IsCount.toCount?_eq, ?_⟩
  rfl

end GrowthSettings

namespace ForestSettings

inductive Field where
  | trees
  | featureShare
  | maxDepth
  | minSplit
  | bootstrap
  | seed

def overlay (wanted : Field → Bool) (s base : ForestSettings) :
    ForestSettings where
  trees := if wanted .trees then s.trees else base.trees
  featureShare := if wanted .featureShare then s.featureShare else base.featureShare
  maxDepth := if wanted .maxDepth then s.maxDepth else base.maxDepth
  minSplit := if wanted .minSplit then s.minSplit else base.minSplit
  bootstrap := if wanted .bootstrap then s.bootstrap else base.bootstrap
  seed := if wanted .seed then s.seed else base.seed

structure SpeltBy (wanted : Field → Bool) (s : ForestSettings)
    (members : List (String × Json)) : Prop where
  distinct : (members.map Prod.fst).Nodup
  trees : HasField members "n_estimators" (wanted .trees) (IsCount s.trees)
  featureShare :
    HasField members "max_features" (wanted .featureShare) (IsFloat s.featureShare)
  maxDepth : HasField members "max_depth" (wanted .maxDepth) (IsCount s.maxDepth)
  minSplit :
    HasField members "min_samples_split" (wanted .minSplit) (IsCount s.minSplit)
  bootstrap :
    HasField members "bootstrap" (wanted .bootstrap) fun j => j = .bool s.bootstrap
  seed : HasField members "seed" (wanted .seed) (Json.IsWord s.seed)

variable {wanted : Field → Bool} {s : ForestSettings}
  {members : List (String × Json)}

theorem overlay_eq_base (h : ∀ field, wanted field = false)
    (base : ForestSettings) : overlay wanted s base = base := by
  simp [overlay, h]

theorem ofJson?_of_speltBy (h : SpeltBy wanted s members) :
    ofJson? (.obj members) = some (overlay wanted s standard) := by
  have hd := h.distinct
  refine Option.bind_eq_some_iff.mpr
    ⟨_, Json.fields?_obj hd ["n_estimators", "max_features", "max_depth",
      "min_samples_split", "bootstrap", "seed"], ?_⟩
  refine Option.bind_eq_some_iff.mpr
    ⟨_, h.trees.withDefault_eq hd rfl fun _ => IsCount.toCount?_eq, ?_⟩
  refine Option.bind_eq_some_iff.mpr
    ⟨_, h.featureShare.withDefault_eq hd rfl fun _ => IsFloat.toFloat?_eq, ?_⟩
  refine Option.bind_eq_some_iff.mpr
    ⟨_, h.maxDepth.withDefault_eq hd rfl fun _ => IsCount.toCount?_eq, ?_⟩
  refine Option.bind_eq_some_iff.mpr
    ⟨_, h.minSplit.withDefault_eq hd rfl fun _ => IsCount.toCount?_eq, ?_⟩
  refine Option.bind_eq_some_iff.mpr
    ⟨_, h.bootstrap.withDefault_eq hd rfl fun _ => congrArg Json.toBool?, ?_⟩
  refine Option.bind_eq_some_iff.mpr
    ⟨_, h.seed.withDefault_eq hd rfl fun _ => Json.IsWord.toWord?_eq, ?_⟩
  rfl

end ForestSettings

namespace ClassifierSettings

/-- The fields of the settings of all classifiers, by their sections. -/
inductive Field where
  | nearest (field : NearestSettings.Field)
  | logistic (field : LogisticSettings.Field)
  | tree (field : GrowthSettings.Field)
  | forest (field : ForestSettings.Field)

/-- Every section of the one settings over that of the other. -/
def overlay (wanted : Field → Bool) (s base : ClassifierSettings) :
    ClassifierSettings where
  nearest := s.nearest.overlay (fun field => wanted (.nearest field)) base.nearest
  logistic := s.logistic.overlay (fun field => wanted (.logistic field)) base.logistic
  tree := s.tree.overlay (fun field => wanted (.tree field)) base.tree
  forest := s.forest.overlay (fun field => wanted (.forest field)) base.forest

/-- The members hold the sections of the wanted fields. -/
structure SpeltBy (wanted : Field → Bool) (s : ClassifierSettings)
    (members : List (String × Json)) : Prop where
  distinct : (members.map Prod.fst).Nodup
  nearest : HasSection members "knn" (fun field => wanted (.nearest field))
    (s.nearest.SpeltBy fun field => wanted (.nearest field))
  logistic :
    HasSection members "logistic_regression" (fun field => wanted (.logistic field))
      (s.logistic.SpeltBy fun field => wanted (.logistic field))
  tree : HasSection members "decision_tree" (fun field => wanted (.tree field))
    (s.tree.SpeltBy fun field => wanted (.tree field))
  forest : HasSection members "random_forest" (fun field => wanted (.forest field))
    (s.forest.SpeltBy fun field => wanted (.forest field))

variable {wanted : Field → Bool} {s : ClassifierSettings}
  {members : List (String × Json)}

theorem overlay_eq_base (h : ∀ field, wanted field = false)
    (base : ClassifierSettings) : overlay wanted s base = base := by
  rw [overlay, NearestSettings.overlay_eq_base fun field => h (.nearest field),
    LogisticSettings.overlay_eq_base fun field => h (.logistic field),
    GrowthSettings.overlay_eq_base fun field => h (.tree field),
    ForestSettings.overlay_eq_base fun field => h (.forest field)]

theorem ofJson?_of_speltBy (h : SpeltBy wanted s members) :
    ofJson? (.obj members) = some (overlay wanted s standard) := by
  have hd := h.distinct
  refine Option.bind_eq_some_iff.mpr
    ⟨_, Json.fields?_obj hd ["knn", "logistic_regression", "decision_tree",
      "random_forest"], ?_⟩
  refine Option.bind_eq_some_iff.mpr
    ⟨_, h.nearest.withDefault_eq hd rfl (fun _ => NearestSettings.ofJson?_of_speltBy)
      fun hnone => NearestSettings.overlay_eq_base hnone _, ?_⟩
  refine Option.bind_eq_some_iff.mpr
    ⟨_, h.logistic.withDefault_eq hd rfl (fun _ => LogisticSettings.ofJson?_of_speltBy)
      fun hnone => LogisticSettings.overlay_eq_base hnone _, ?_⟩
  refine Option.bind_eq_some_iff.mpr
    ⟨_, h.tree.withDefault_eq hd rfl (fun _ => GrowthSettings.ofJson?_of_speltBy)
      fun hnone => GrowthSettings.overlay_eq_base hnone _, ?_⟩
  refine Option.bind_eq_some_iff.mpr
    ⟨_, h.forest.withDefault_eq hd rfl (fun _ => ForestSettings.ofJson?_of_speltBy)
      fun hnone => ForestSettings.overlay_eq_base hnone _, ?_⟩
  rfl

end ClassifierSettings

end Credence
