/-
What a census says about the documents that it was taken of.  Each term has one
number, the numbers follow the order of first sight, and a term is counted once for
each document that holds it.
-/
import Credence.Vectorizer.Vocabulary
import Mathlib.Data.List.Induction
import Mathlib.Data.List.Nodup

namespace Credence

namespace Vocabulary

/-- The numbers of the terms are their places. -/
def Indexed (v : Vocabulary) : Prop :=
  ∀ (term : String) (i : Nat),
    v.indexOf? term = some i ↔ v.terms[i]? = some term

theorem empty_indexed : empty.Indexed := by
  intro term i
  simp [empty, indexOf?]

section indexed

variable {v : Vocabulary} (h : v.Indexed) {term : String}

include h

theorem Indexed.indexOf?_eq_none_iff : v.indexOf? term = none ↔ term ∉ v.terms := by
  rw [Option.eq_none_iff_forall_ne_some, Array.mem_iff_getElem?, not_exists]
  exact forall_congr' fun i => not_congr (h term i)

theorem Indexed.lt_size {i : Nat} (hi : v.indexOf? term = some i) : i < v.size := by
  obtain ⟨hlt, -⟩ := Array.getElem?_eq_some_iff.mp ((h term i).mp hi)
  exact hlt

theorem Indexed.eq_of_getElem? {i j : Nat} (hi : v.terms[i]? = some term)
    (hj : v.terms[j]? = some term) : i = j :=
  Option.some.inj (((h term i).mpr hi).symm.trans ((h term j).mpr hj))

theorem Indexed.push (hnew : v.indexOf? term = none) : (v.push term).Indexed := by
  intro other i
  have hpush : (v.push term).indexOf? other =
      if term = other then some v.size else v.indexOf? other := by
    simp [Vocabulary.push, indexOf?, Std.HashMap.getElem?_insert]
  rw [hpush, Vocabulary.push, Array.getElem?_push, size]
  by_cases hother : term = other
  · subst hother
    have habsent : v.terms[i]? ≠ some term := fun hterm =>
      nomatch hnew.symm.trans ((h term i).mpr hterm)
    by_cases hi : i = v.terms.size
    · simp [hi]
    · simp [hi, Ne.symm hi, habsent]
  · have hlast : v.indexOf? other ≠ some v.terms.size := fun hindex =>
      Nat.lt_irrefl _ (h.lt_size hindex)
    by_cases hi : i = v.terms.size
    · subst hi
      simp [hother, hlast]
    · simp [hother, hi, h other i]

theorem Indexed.nodup : v.terms.toList.Nodup := by
  rw [List.nodup_iff_getElem?_ne_getElem?]
  intro i j hij hj heq
  obtain ⟨term, hterm⟩ : ∃ term, v.terms.toList[j]? = some term :=
    ⟨_, List.getElem?_eq_getElem hj⟩
  rw [hterm, Array.getElem?_toList] at heq
  rw [Array.getElem?_toList] at hterm
  exact Nat.ne_of_lt hij (h.eq_of_getElem? heq hterm)

end indexed

end Vocabulary

namespace Census

/-- How many of some documents hold a term. -/
def holdersOf (documents : List (List String)) (term : String) : Nat :=
  documents.countP fun words => term ∈ words

section holders

variable {documents : List (List String)} {words : List String} {term other : String}

theorem holdersOf_eq_zero (h : term ∉ documents.flatten) :
    holdersOf documents term = 0 := by
  rw [holdersOf, List.countP_eq_zero]
  intro words hwords hterm
  exact h (List.mem_flatten_of_mem hwords (of_decide_eq_true hterm))

theorem holdersOf_pos (h : term ∈ documents.flatten) : 0 < holdersOf documents term := by
  obtain ⟨words, hwords, hterm⟩ := List.mem_flatten.mp h
  exact List.countP_pos_iff.mpr ⟨words, hwords, decide_eq_true hterm⟩

theorem holdersOf_append_nil :
    holdersOf (documents ++ [[]]) term = holdersOf documents term := by
  simp [holdersOf]

/-- One more word makes its document a holder, unless the document was one before. -/
theorem holdersOf_append_word :
    holdersOf (documents ++ [words ++ [term]]) other =
      holdersOf (documents ++ [words]) other +
        if other = term ∧ term ∉ words then 1 else 0 := by
  by_cases hother : other = term
  · subst hother
    by_cases hwords : other ∈ words
    · simp [holdersOf, hwords]
    · simp [holdersOf, hwords]
  · simp [holdersOf, hother]

end holders

/-- A census of some terms, in the order of first sight, with counts for some
documents. -/
structure Covers (c : Census) (entered : List String)
    (documents : List (List String)) : Prop where
  indexed : c.vocabulary.Indexed
  terms_eq : c.vocabulary.terms.toList = entered.eraseDups
  size_eq : c.holders.size = c.vocabulary.size
  holders_eq : ∀ (i : Nat) (term : String), c.vocabulary.terms[i]? = some term →
    c.holders[i]? = some (holdersOf documents term)

/-- The numbers of some words. -/
def Seen (c : Census) (words : List String) (seen : Std.HashSet Nat) : Prop :=
  ∀ i, seen.contains i = true ↔ ∃ term ∈ words, c.vocabulary.terms[i]? = some term

section covers

variable {c : Census} {entered words : List String}
  {documents : List (List String)} {term : String}

theorem Covers.mem_terms_iff (h : c.Covers entered documents) :
    term ∈ c.vocabulary.terms ↔ term ∈ entered := by
  rw [← Array.mem_toList_iff, h.terms_eq, List.mem_eraseDups]

theorem Covers.congr {others : List (List String)} (h : c.Covers entered documents)
    (hsame : ∀ term, holdersOf others term = holdersOf documents term) :
    c.Covers entered others :=
  { h with holders_eq := fun i term hi => by rw [hsame, h.holders_eq i term hi] }

/-- The terms of a census keep their numbers when one more is entered. -/
theorem getElem?_enter (c : Census) (term : String) {i : Nat} {other : String}
    (hi : c.vocabulary.terms[i]? = some other) :
    (c.enter term).2.vocabulary.terms[i]? = some other := by
  rw [enter]
  split
  · exact hi
  · have hne : i ≠ c.vocabulary.size := by
      obtain ⟨hlt, -⟩ := Array.getElem?_eq_some_iff.mp hi
      exact Nat.ne_of_lt hlt
    rw [Census.push, Vocabulary.getElem?_push, if_neg hne]
    exact hi

theorem Covers.push (h : c.Covers entered documents)
    (hcounted : ∀ words ∈ documents, words ⊆ entered) (hnew : term ∉ entered) :
    (c.push term).Covers (entered ++ [term]) documents where
  indexed := by
    apply h.indexed.push
    rwa [h.indexed.indexOf?_eq_none_iff, h.mem_terms_iff]
  terms_eq := by
    rw [Census.push, Vocabulary.push, Array.toList_push, h.terms_eq,
      List.eraseDups_append]
    simp [List.removeAll, hnew, List.eraseDups_cons]
  size_eq := by
    rw [Census.push, Array.size_push, h.size_eq, Vocabulary.size_push]
  holders_eq := by
    intro i other hi
    rw [Census.push, Vocabulary.getElem?_push] at hi
    rw [Census.push, Array.getElem?_push, h.size_eq]
    split at hi
    · next hlast =>
        have habsent : other ∉ documents.flatten := by
          intro hother
          obtain ⟨words, hwords, hmem⟩ := List.mem_flatten.mp hother
          exact hnew (Option.some.inj hi ▸ hcounted words hwords hmem)
        rw [if_pos hlast, holdersOf_eq_zero habsent]
    · next hold =>
        rw [if_neg hold]
        exact h.holders_eq i other hi

/-- A term that is entered has a number, whether it had one before or not. -/
theorem Covers.enter (h : c.Covers entered documents)
    (hcounted : ∀ words ∈ documents, words ⊆ entered) (term : String) :
    (c.enter term).2.Covers (entered ++ [term]) documents ∧
      (c.enter term).2.vocabulary.terms[(c.enter term).1]? = some term := by
  rw [Census.enter]
  split
  · next i hindex =>
      have hterm := (h.indexed term i).mp hindex
      have hmem : term ∈ entered := h.mem_terms_iff.mp (Array.mem_of_getElem? hterm)
      refine ⟨{ h with terms_eq := ?_ }, hterm⟩
      rw [h.terms_eq, List.eraseDups_append]
      simp [List.removeAll, hmem]
  · next hindex =>
      have hnew : term ∉ entered :=
        mt h.mem_terms_iff.mpr (h.indexed.indexOf?_eq_none_iff.mp hindex)
      refine ⟨h.push hcounted hnew, ?_⟩
      rw [Census.push, Vocabulary.getElem?_push, if_pos rfl]

/-- A term that its document did not have before is counted for the document. -/
theorem Covers.count (h : c.Covers entered (documents ++ [words])) {i : Nat}
    (hi : c.vocabulary.terms[i]? = some term) (hnew : term ∉ words) :
    (c.count i).Covers entered (documents ++ [words ++ [term]]) where
  indexed := h.indexed
  terms_eq := h.terms_eq
  size_eq := by rw [Census.count, Array.size_modify, h.size_eq]
  holders_eq := by
    intro j other hj
    have hplace : i = j ↔ other = term := by
      constructor
      · rintro rfl
        exact Option.some.inj (hj.symm.trans hi)
      · rintro rfl
        exact h.indexed.eq_of_getElem? hi hj
    rw [Census.count, Array.getElem?_modify, h.holders_eq j other hj,
      holdersOf_append_word]
    by_cases hother : other = term
    · simp [hplace.mpr hother, hother, hnew]
    · simp [mt hplace.mp hother, hother]

/-- Terms that are entered later have no number that was seen before. -/
theorem Seen.enter {seen : Std.HashSet Nat} (hseen : c.Seen words seen)
    (h : c.Covers entered documents) (hwords : words ⊆ entered)
    (hcounted : ∀ words ∈ documents, words ⊆ entered) (term : String) :
    (c.enter term).2.Seen words seen := by
  intro i
  rw [hseen i]
  constructor
  · rintro ⟨other, hother, hi⟩
    exact ⟨other, hother, getElem?_enter c term hi⟩
  · rintro ⟨other, hother, hi⟩
    obtain ⟨j, hj⟩ :=
      Array.mem_iff_getElem?.mp (h.mem_terms_iff.mpr (hwords hother))
    have hsame := (h.enter hcounted term).1.indexed.eq_of_getElem? hi
      (getElem?_enter c term hj)
    exact ⟨other, hother, hsame ▸ hj⟩

/-- A word that its document had before adds no number. -/
theorem Seen.of_mem {seen : Std.HashSet Nat} (hseen : c.Seen words seen)
    (hmem : term ∈ words) : c.Seen (words ++ [term]) seen := by
  intro i
  rw [hseen i]
  constructor
  · rintro ⟨other, hother, hi⟩
    exact ⟨other, List.mem_append_left _ hother, hi⟩
  · rintro ⟨other, hother, hi⟩
    rcases List.mem_append.mp hother with hother | hother
    · exact ⟨other, hother, hi⟩
    · exact ⟨term, hmem, List.mem_singleton.mp hother ▸ hi⟩

/-- A word adds its number to those that were seen. -/
theorem Seen.insert {seen : Std.HashSet Nat} (hseen : c.Seen words seen)
    (hindexed : c.vocabulary.Indexed) {i : Nat}
    (hi : c.vocabulary.terms[i]? = some term) :
    c.Seen (words ++ [term]) (seen.insert i) := by
  intro j
  rw [Std.HashSet.contains_insert, Bool.or_eq_true, beq_iff_eq, hseen j]
  constructor
  · rintro (rfl | ⟨other, hother, hj⟩)
    · exact ⟨term, List.mem_append_right _ List.mem_cons_self, hi⟩
    · exact ⟨other, List.mem_append_left _ hother, hj⟩
  · rintro ⟨other, hother, hj⟩
    rcases List.mem_append.mp hother with hother | hother
    · exact Or.inr ⟨other, hother, hj⟩
    · obtain rfl := List.mem_singleton.mp hother
      exact Or.inl (hindexed.eq_of_getElem? hi hj)

/-- One more word of a document is entered, and counted if it is new there. -/
theorem Covers.note {seen : Std.HashSet Nat}
    (h : c.Covers (documents.flatten ++ words) (documents ++ [words]))
    (hseen : c.Seen words seen) (term : String) :
    (note (c, seen) term).1.Covers (documents.flatten ++ (words ++ [term]))
        (documents ++ [words ++ [term]]) ∧
      (note (c, seen) term).1.Seen (words ++ [term]) (note (c, seen) term).2 := by
  have hcounted : ∀ some ∈ documents ++ [words], some ⊆ documents.flatten ++ words := by
    intro some hsome word hword
    rcases List.mem_append.mp hsome with hsome | hsome
    · exact List.mem_append_left _ (List.mem_flatten_of_mem hsome hword)
    · exact List.mem_append_right _ (List.mem_singleton.mp hsome ▸ hword)
  obtain ⟨hentered, hterm⟩ := h.enter hcounted term
  have hstill := hseen.enter h (List.subset_append_right _ _) hcounted term
  rw [List.append_assoc] at hentered
  rw [Census.note]
  generalize c.enter term = entry at hentered hterm hstill ⊢
  obtain ⟨i, entered⟩ := entry
  dsimp only at hentered hterm hstill ⊢
  have hcontains : seen.contains i = true ↔ term ∈ words := by
    rw [hstill i]
    constructor
    · rintro ⟨other, hother, hi⟩
      exact Option.some.inj (hi.symm.trans hterm) ▸ hother
    · intro hwords
      exact ⟨term, hwords, hterm⟩
  by_cases hwords : term ∈ words
  · have hsame (other : String) : holdersOf (documents ++ [words ++ [term]]) other =
        holdersOf (documents ++ [words]) other := by
      simp [holdersOf_append_word, hwords]
    rw [if_pos (hcontains.mpr hwords)]
    exact ⟨hentered.congr hsame, hstill.of_mem hwords⟩
  · rw [if_neg (mt hcontains.mp hwords)]
    exact ⟨hentered.count hterm hwords, hstill.insert hentered.indexed hterm⟩

/-- All words of a document are entered, and its distinct ones are counted. -/
theorem Covers.addDocument (h : c.Covers documents.flatten documents)
    (words : List String) :
    (c.addDocument words).Covers (documents ++ [words]).flatten
      (documents ++ [words]) := by
  have hall : (words.foldl Census.note (c, ∅)).1.Covers (documents.flatten ++ words)
        (documents ++ [words]) ∧
      (words.foldl Census.note (c, ∅)).1.Seen words
        (words.foldl Census.note (c, ∅)).2 := by
    induction words using List.reverseRecOn with
    | nil =>
        rw [List.append_nil]
        refine ⟨h.congr fun term => holdersOf_append_nil, fun i => ?_⟩
        simp
    | append_singleton words word ih =>
        rw [List.foldl_append]
        exact ih.1.note ih.2 word
  rw [List.flatten_append, List.flatten_singleton]
  exact hall.1

end covers

/-- A census of some documents knows all their terms, and how many documents hold
each of them. -/
theorem ofDocuments_covers (documents : List (List String)) :
    (ofDocuments documents).Covers documents.flatten documents := by
  induction documents using List.reverseRecOn with
  | nil => exact ⟨Vocabulary.empty_indexed, rfl, rfl, nofun⟩
  | append_singleton documents words ih =>
      rw [ofDocuments, List.foldl_append]
      exact ih.addDocument words

end Census

end Credence
