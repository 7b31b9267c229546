/-
What a fitted vectorizer makes of a text.  The features are those of a bag of words:
they are made of how often each term occurs, and not of where.
-/
import Credence.Proofs.Number.Count
import Credence.Proofs.Vectorizer.Fit

namespace Credence

/-- One is added so many times to zero. -/
def onesAdded : Nat → Float
  | 0 => 0.0
  | n + 1 => onesAdded n + 1.0

namespace TermTable

/-- The parts of a table belong together. -/
structure Sound (t : TermTable) : Prop where
  indexed : t.vocabulary.Indexed
  size_weights : t.weights.size = t.vocabulary.size

theorem ofDocuments_sound (w : Weighting) (documents : List (List String)) :
    (ofDocuments w documents).Sound where
  indexed := (Census.ofDocuments_covers documents).indexed
  size_weights := size_weights_ofDocuments w documents

/-- The features of a bag of words.  Every term of the table has its share of the words,
times its weight, and words outside of the table count for the length only. -/
structure Bag (t : TermTable) (words : List String) (x : Features) : Prop where
  size_eq : x.size = t.vocabulary.size
  share_eq : words ≠ [] → ∀ (i : Nat) (term : String),
    t.vocabulary.terms[i]? = some term →
      ∃ weight, t.weights[i]? = some weight ∧ x[i]? =
        some (onesAdded (words.count term) / Float.ofNat words.length * weight)
  zero_eq : words = [] → x = Array.replicate t.vocabulary.size 0.0

section bag

variable {t : TermTable} {words : List String}

/-- One more word is counted at its own place and nowhere else. -/
theorem Sound.getElem?_countTerm (h : t.Sound) {x : Features} {i : Nat}
    {term : String} (hi : t.vocabulary.terms[i]? = some term) (word : String) :
    (t.countTerm x word)[i]? =
      if word = term then x[i]?.map (· + 1.0) else x[i]? := by
  have hindex := (h.indexed term i).mpr hi
  rw [countTerm]
  cases hword : t.vocabulary.indexOf? word with
  | none =>
      have hne : word ≠ term := by
        rintro rfl
        cases hindex.symm.trans hword
      rw [if_neg hne]
  | some j =>
      have hplace : j = i ↔ word = term := by
        constructor
        · rintro rfl
          exact Option.some.inj (((h.indexed word j).mp hword).symm.trans hi)
        · rintro rfl
          exact Option.some.inj (hword.symm.trans hindex)
      dsimp only
      rw [Array.getElem?_modify]
      simp only [hplace]

/-- The place of a term holds the number of its occurrences. -/
theorem Sound.getElem?_counts (h : t.Sound) {i : Nat} {term : String}
    (hi : t.vocabulary.terms[i]? = some term) (words : List String) :
    (t.counts words)[i]? = some (onesAdded (words.count term)) := by
  induction words using List.reverseRecOn with
  | nil =>
      obtain ⟨hlt, -⟩ := Array.getElem?_eq_some_iff.mp hi
      exact Array.getElem?_replicate.trans (if_pos hlt)
  | append_singleton words word ih =>
      have hstep : t.counts (words ++ [word]) = t.countTerm (t.counts words) word := by
        rw [counts, List.foldl_append]
        rfl
      rw [hstep, h.getElem?_countTerm hi, ih, List.count_append, List.count_singleton]
      by_cases hword : word = term
      · simp [hword, onesAdded]
      · simp [hword]

theorem Sound.features_bag (h : t.Sound) (words : List String) :
    t.Bag words (t.features words) where
  size_eq := t.size_features words
  share_eq := by
    intro hwords i term hi
    have hlength : 0 < words.length := List.length_pos_iff.mpr hwords
    obtain ⟨hlt, -⟩ := Array.getElem?_eq_some_iff.mp hi
    have hweight : t.weights[i]? = some (t.weights.getD i 0.0) := by
      rw [Array.getD_eq_getD_getElem?, Array.getElem?_eq_getElem (h.size_weights ▸ hlt)]
      rfl
    refine ⟨_, hweight, ?_⟩
    rw [features, if_pos ((Number.ofNat_pos_iff _).mpr hlength), Array.getElem?_mapIdx,
      h.getElem?_counts hi]
    rfl
  zero_eq := by
    rintro rfl
    have hlength : ¬ 0.0 < Float.ofNat ([] : List String).length :=
      mt (Number.ofNat_pos_iff _).mp (Nat.lt_irrefl 0)
    rw [features, if_neg hlength]
    rfl

/-- The order of the words does not matter. -/
theorem Bag.eq_of_perm {other : List String} {x y : Features} (hx : t.Bag words x)
    (hy : t.Bag other y) (hperm : words.Perm other) : x = y := by
  by_cases hwords : words = []
  · have hother : other = [] := (hwords ▸ hperm).nil_eq.symm
    rw [hx.zero_eq hwords, hy.zero_eq hother]
  · have hother : other ≠ [] := fun hnil => hwords (hnil ▸ hperm).eq_nil
    apply Array.ext_getElem?
    intro i
    cases hi : t.vocabulary.terms[i]? with
    | none =>
        have hle := Array.getElem?_eq_none_iff.mp hi
        rw [Array.getElem?_eq_none (hx.size_eq ▸ hle),
          Array.getElem?_eq_none (hy.size_eq ▸ hle)]
    | some term =>
        obtain ⟨weight, hweight, hxi⟩ := hx.share_eq hwords i term hi
        obtain ⟨weight', hweight', hyi⟩ := hy.share_eq hother i term hi
        have hsame : weight = weight' :=
          Option.some.inj (hweight.symm.trans hweight')
        rw [hxi, hyi, hsame, hperm.count_eq, hperm.length_eq]

end bag

end TermTable

namespace Vectorizer

/-- Vectorizers that come out of a run, whatever analyzer they read texts with. -/
def Reached (v : Vectorizer) : Prop :=
  ∃ settings analyzer ops, v = ((withAnalyzer settings analyzer).run ops).2

/-- What was learnt, if anything, belongs together. -/
def Sound (v : Vectorizer) : Prop := ∀ t, v.table? = some t → t.Sound

theorem fit_sound (v : Vectorizer) (documents : List String) :
    (v.fit documents).Sound := by
  intro t ht
  cases ht
  exact TermTable.ofDocuments_sound _ _

theorem Sound.perform {v : Vectorizer} (h : v.Sound) (op : Operation) :
    (v.perform op).2.Sound := by
  cases op with
  | fit documents => exact v.fit_sound documents
  | transform _ => exact h
  | transformAll _ => exact h
  | fitTransform documents => exact v.fit_sound documents

theorem Sound.run {v : Vectorizer} (h : v.Sound) (ops : List Operation) :
    (v.run ops).2.Sound := by
  induction ops generalizing v with
  | nil => exact h
  | cons op ops ih => exact ih (h.perform op)

theorem Reached.sound {v : Vectorizer} (h : v.Reached) : v.Sound := by
  obtain ⟨settings, analyzer, ops, rfl⟩ := h
  apply Sound.run
  intro t ht
  cases ht

theorem fitTransform_eq (v : Vectorizer) (documents : List String) :
    v.fitTransform documents =
      (.ok (documents.map (v.fit documents).row), v.fit documents) := by
  rw [fitTransform]
  exact congrArg (·, v.fit documents)
    (transformAll_eq_ok (v.isSome_table?_fit documents) documents)

/-- Every text becomes the bag of its words, equal bags become equal rows, and rows
that come with a fit are those that follow it. -/
theorem Reached.transform_bag {v : Vectorizer} (h : v.Reached) :
    (v.table?.isSome →
      (∀ text, ∃ x, v.transform text = .ok x ∧ v.table.Bag (v.terms text) x) ∧
      ∀ text other, (v.terms text).Perm (v.terms other) →
        v.transform text = v.transform other) ∧
    ∀ documents, ∃ rows, v.fitTransform documents = (.ok rows, v.fit documents) ∧
      documents.map (v.fit documents).transform = rows.map .ok := by
  constructor
  · intro hfitted
    obtain ⟨t, ht⟩ := Option.isSome_iff_exists.mp hfitted
    have hsound : v.table.Sound := by
      rw [table, ht]
      exact h.sound t ht
    have hbag (text : String) : v.table.Bag (v.terms text) (v.row text) :=
      hsound.features_bag (v.terms text)
    constructor
    · intro text
      exact ⟨_, transform_eq_ok hfitted text, hbag text⟩
    · intro text other hperm
      rw [transform_eq_ok hfitted, transform_eq_ok hfitted,
        (hbag text).eq_of_perm (hbag other) hperm]
  · intro documents
    refine ⟨_, v.fitTransform_eq documents, ?_⟩
    rw [List.map_map]
    apply List.map_congr_left
    intro text _
    exact transform_eq_ok (v.isSome_table?_fit documents) text

/-- Two words in either order. -/
theorem transform_bag_swapped : ∃ v : Vectorizer, v.Reached ∧ v.table?.isSome ∧
    (v.terms "fake news").Perm (v.terms "News: fake!") ∧
    (∃ x, v.transform "fake news" = .ok x ∧ v.table.Bag (v.terms "fake news") x) ∧
    v.transform "fake news" = v.transform "News: fake!" := by
  let v := ((withAnalyzer .standard .standard).run [.fit ["fake news", "news"]]).2
  have hreached : v.Reached := ⟨_, _, _, rfl⟩
  have hperm : (v.terms "fake news").Perm (v.terms "News: fake!") := by decide +kernel
  exact ⟨v, hreached, rfl, hperm, (hreached.transform_bag.1 rfl).1 _,
    (hreached.transform_bag.1 rfl).2 _ _ hperm⟩

end Vectorizer

end Credence
