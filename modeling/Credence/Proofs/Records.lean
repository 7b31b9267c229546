/-
Which records can be used: those with a text that is not blank and a label that
names a class.  What is kept of a list of records is the texts and codes of exactly
these, in order.
-/
import Credence.Pipeline.Training
import Mathlib.Data.List.TakeWhile
import Mathlib.Tactic.ByContra

namespace Credence

namespace Text

theorem trimChars_eq_nil_iff (s : List Char) :
    trimChars s = [] ↔ ∀ c ∈ s, isBlank c = true := by
  rw [trimChars, List.reverse_eq_nil_iff, List.dropWhile_eq_nil_iff]
  constructor
  · intro h
    have hnil : s.dropWhile isBlank = [] := by
      by_contra hne
      have hhead := List.head_dropWhile_not isBlank hne
      have hblank := h _ (List.mem_reverse.mpr (List.head_mem hne))
      rw [hhead] at hblank
      exact Bool.false_ne_true hblank
    exact List.dropWhile_eq_nil_iff.mp hnil
  · intro h c hc
    exact h c ((List.dropWhile_suffix isBlank).subset (List.mem_reverse.mp hc))

/-- A text is blank if nothing is left of it without its outer blanks. -/
theorem isBlankText_iff_trim (s : String) :
    isBlankText s = true ↔ trim s = "" := by
  rw [isBlankText, List.all_eq_true, ← trimChars_eq_nil_iff, trim,
    String.ofList_eq_empty_iff]

end Text

namespace Record

/-- A record can be used if its text is not blank and its label names a class. -/
def Usable (labels : LabelPair) (r : Record) : Prop :=
  Text.trim r.text ≠ "" ∧
    (LabelPair.normalize r.label = LabelPair.normalize labels.positive ∨
      LabelPair.normalize r.label = LabelPair.normalize labels.negative)

instance (labels : LabelPair) : DecidablePred (Usable labels) :=
  fun _ => inferInstanceAs (Decidable (_ ∧ _))

def verdict (labels : LabelPair) (r : Record) : Verdict :=
  if LabelPair.normalize r.label = LabelPair.normalize labels.positive then
    .positive
  else .negative

def code (labels : LabelPair) (r : Record) : Nat := (r.verdict labels).code

section accept

variable {labels : LabelPair} {r : Record}

theorem encode?_of_usable (h : r.Usable labels) :
    labels.encode? r.label = some (r.verdict labels) := by
  rw [LabelPair.encode?, verdict]
  by_cases hpositive :
      LabelPair.normalize r.label = LabelPair.normalize labels.positive
  · rw [if_pos hpositive, if_pos hpositive]
  · rw [if_neg hpositive, if_neg hpositive,
      if_pos (h.2.resolve_left hpositive)]

theorem accept_of_usable (h : r.Usable labels) :
    r.accept labels = .ok (r.text, r.verdict labels) := by
  have hblank := mt (Text.isBlankText_iff_trim r.text).mp h.1
  rw [accept, if_neg hblank, encode?_of_usable h]

theorem exists_accept_eq_error (h : ¬ r.Usable labels) :
    ∃ e, r.accept labels = .error e := by
  by_cases htext : Text.trim r.text = ""
  · have hblank := (Text.isBlankText_iff_trim r.text).mpr htext
    exact ⟨.blankText, by rw [accept, if_pos hblank]⟩
  · have hblank := mt (Text.isBlankText_iff_trim r.text).mp htext
    have hlabel := not_or.mp (not_and.mp h htext)
    refine ⟨.unknownLabel r.label, ?_⟩
    rw [accept, if_neg hblank, LabelPair.encode?]
    simp [hlabel.1, hlabel.2]

theorem accept_eq_ok_iff {item : String × Verdict} :
    r.accept labels = .ok item ↔
      r.Usable labels ∧ item = (r.text, r.verdict labels) := by
  by_cases h : r.Usable labels
  · rw [accept_of_usable h]
    simp [h, eq_comm]
  · obtain ⟨e, he⟩ := exists_accept_eq_error h
    simp [h, he]

theorem code_eq_one_iff :
    r.code labels = 1 ↔
      LabelPair.normalize r.label = LabelPair.normalize labels.positive := by
  rw [code, verdict]
  split
  · next h => exact ⟨fun _ => h, fun _ => rfl⟩
  · next h => exact ⟨nofun, fun h' => absurd h' h⟩

theorem code_eq_zero_iff (hlabels : labels.problem? = none)
    (h : r.Usable labels) :
    r.code labels = 0 ↔
      LabelPair.normalize r.label = LabelPair.normalize labels.negative := by
  have hne := LabelPair.normalize_ne_of_problem? hlabels
  rw [code, verdict]
  split
  · next hpositive =>
      rw [hpositive]
      exact ⟨nofun, fun h' => absurd h' hne⟩
  · next hpositive => exact ⟨fun _ => h.2.resolve_left hpositive, fun _ => rfl⟩

/-- A record that is refused is refused in a way that lets the others go on. -/
theorem kind_of_accept_eq_error {e : Error} (h : r.accept labels = .error e) :
    e.kind = .parseFailure ∧ e.isRecoverable = true := by
  rw [accept] at h
  split at h
  · cases h
    exact ⟨rfl, rfl⟩
  · split at h
    · cases h
    · cases h
      exact ⟨rfl, rfl⟩

end accept

end Record

/-- The records of a list that can be used, in order. -/
def usable (labels : LabelPair) (records : List Record) : List Record :=
  records.filter fun r => decide (r.Usable labels)

theorem usable_eq_nil_iff {labels : LabelPair} {records : List Record} :
    usable labels records = [] ↔ ∀ r ∈ records, ¬ r.Usable labels := by
  simp [usable]

theorem usable_ne_nil_iff {labels : LabelPair} {records : List Record} :
    usable labels records ≠ [] ↔ ∃ r ∈ records, r.Usable labels := by
  rw [Ne, usable_eq_nil_iff]
  push Not
  rfl

@[simp] theorem usable_usable (labels : LabelPair) (records : List Record) :
    usable labels (usable labels records) = usable labels records := by
  simp [usable]

theorem keep_kept (labels : LabelPair) (records : List Record) :
    (keep labels records).1 =
      (usable labels records).map fun r => (r.text, r.verdict labels) := by
  induction records with
  | nil => rfl
  | cons r rest ih =>
      by_cases h : r.Usable labels
      · simp [keep, usable, Record.accept_of_usable h, h, ih]
      · obtain ⟨e, he⟩ := Record.exists_accept_eq_error h
        simp [keep, usable, he, h, ih]

example : (keep .standard [⟨"one", " REAL "⟩, ⟨" ", "real"⟩, ⟨"two", "?"⟩]).1 =
    [("one", .positive)] := by
  decide +kernel

/-- Every record is either kept or counted. -/
theorem length_keep (labels : LabelPair) (records : List Record) :
    (keep labels records).1.length + (keep labels records).2 =
      records.length := by
  induction records with
  | nil => rfl
  | cons r rest ih =>
      rw [keep]
      cases r.accept labels with
      | ok item => simp only [List.length_cons]; omega
      | error e => simp only [List.length_cons]; omega

theorem keep_dropped (labels : LabelPair) (records : List Record) :
    (keep labels records).2 =
      records.length - (usable labels records).length := by
  have hlength := length_keep labels records
  rw [keep_kept, List.length_map] at hlength
  omega

/-- What is accepted of some records: texts as they are, with the codes of their
classes. -/
def accepted (labels : LabelPair) (records : List Record) :
    List (String × Nat) :=
  (usable labels records).map fun r => (r.text, r.code labels)

theorem accepted_eq_nil_iff {labels : LabelPair} {records : List Record} :
    accepted labels records = [] ↔ usable labels records = [] :=
  List.map_eq_nil_iff

section accepted

variable (labels : LabelPair) (records : List Record)

theorem map_fst_accepted :
    (accepted labels records).map (·.1) =
      (usable labels records).map (·.text) := by
  simp only [accepted, List.map_map, Function.comp_def]

theorem map_snd_accepted :
    (accepted labels records).map (·.2) =
      (usable labels records).map (·.code labels) := by
  simp only [accepted, List.map_map, Function.comp_def]

end accepted

end Credence
