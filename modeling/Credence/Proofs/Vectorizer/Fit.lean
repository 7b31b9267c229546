/-
What a vectorizer knows after a fit.  It has the terms of the documents and their
weights, and nothing is left of what it was fitted to before.
-/
import Credence.Proofs.Vectorizer
import Credence.Vectorizer.Run

namespace Credence

namespace TermTable

section ofDocuments

variable (w : Weighting) (documents : List (List String)) {term : String}

theorem size_weights_ofDocuments :
    (ofDocuments w documents).weights.size =
      (ofDocuments w documents).vocabulary.size :=
  Array.size_map.trans (Census.ofDocuments_covers documents).size_eq

/-- The weight at the place of a term is that of its documents. -/
theorem getElem?_weights_ofDocuments {i : Nat}
    (hi : (ofDocuments w documents).vocabulary.terms[i]? = some term) :
    (ofDocuments w documents).weights[i]? =
      some (w.weight documents.length (Census.holdersOf documents term)) := by
  have hholders := (Census.ofDocuments_covers documents).holders_eq i term hi
  rw [ofDocuments, Array.getElem?_map, hholders]
  rfl

theorem weightOf?_ofDocuments (term : String) :
    (ofDocuments w documents).weightOf? term =
      if term ∈ (ofDocuments w documents).vocabulary.terms then
        some (w.weight documents.length (Census.holdersOf documents term))
      else none := by
  have hindexed : (ofDocuments w documents).vocabulary.Indexed :=
    (Census.ofDocuments_covers documents).indexed
  rw [weightOf?]
  cases hindex : (ofDocuments w documents).vocabulary.indexOf? term with
  | none =>
      rw [if_neg (hindexed.indexOf?_eq_none_iff.mp hindex)]
      rfl
  | some i =>
      have hterm := (hindexed term i).mp hindex
      rw [if_pos (Array.mem_of_getElem? hterm), Option.map_some,
        Array.getD_eq_getD_getElem?, getElem?_weights_ofDocuments w documents hterm]
      rfl

end ofDocuments

end TermTable

namespace Vectorizer

/-- How many of some documents have a term. -/
def holders (v : Vectorizer) (documents : List String) (term : String) : Nat :=
  documents.countP fun text => term ∈ v.terms text

/-- What a vectorizer has learnt if it was fitted to some documents last. -/
structure Learnt (v : Vectorizer) (documents : List String) : Prop where
  fitted : v.table?.isSome
  terms_eq : v.table.vocabulary.terms.toList =
    (documents.flatMap v.terms).eraseDups
  indexOf?_iff : ∀ (term : String) (i : Nat),
    v.table.vocabulary.indexOf? term = some i ↔
      v.table.vocabulary.terms[i]? = some term
  indexOf?_lt : ∀ (term : String) (i : Nat),
    v.table.vocabulary.indexOf? term = some i → i < v.table.vocabulary.size
  size_weights : v.table.weights.size = v.table.vocabulary.size
  weightOf?_eq : ∀ term, v.table.weightOf? term =
    if term ∈ v.table.vocabulary.terms then
      some (v.settings.weighting.weight documents.length (v.holders documents term))
    else none
  holders_pos : ∀ term ∈ v.table.vocabulary.terms, 1 ≤ v.holders documents term
  holders_le : ∀ term, v.holders documents term ≤ documents.length
  documents_eq : v.table.documents = documents.length

theorem holdersOf_map_terms (v : Vectorizer) (documents : List String)
    (term : String) :
    Census.holdersOf (documents.map v.terms) term = v.holders documents term :=
  List.countP_map

theorem fit_learnt (v : Vectorizer) (documents : List String) :
    (v.fit documents).Learnt documents := by
  have hcovers := Census.ofDocuments_covers (documents.map v.terms)
  constructor
  · exact v.isSome_table?_fit documents
  · rw [List.flatMap_def]
    exact hcovers.terms_eq
  · exact hcovers.indexed
  · intro term i
    exact hcovers.indexed.lt_size
  · exact TermTable.size_weights_ofDocuments _ _
  · intro term
    have hweight := TermTable.weightOf?_ofDocuments v.settings.weighting
      (documents.map v.terms) term
    rw [List.length_map, holdersOf_map_terms] at hweight
    exact hweight
  · intro term hterm
    rw [← holdersOf_map_terms]
    exact Census.holdersOf_pos (hcovers.mem_terms_iff.mp hterm)
  · intro term
    exact List.countP_le_length
  · exact List.length_map v.terms

section run

/-- A fit replaces all that was learnt before. -/
theorem fit_perform (v : Vectorizer) (op : Operation) (documents : List String) :
    (v.perform op).2.fit documents = v.fit documents := by
  cases op with
  | fit _ => rfl
  | transform _ => rfl
  | transformAll _ => rfl
  | fitTransform _ => rfl

theorem fit_run (v : Vectorizer) (ops : List Operation) (documents : List String) :
    (v.run ops).2.fit documents = v.fit documents := by
  induction ops generalizing v with
  | nil => rfl
  | cons op ops ih =>
      rw [run]
      exact (ih (v.perform op).2).trans (v.fit_perform op documents)

theorem run_append (v : Vectorizer) (ops : List Operation) (op : Operation) :
    (v.run (ops ++ [op])).2 = ((v.run ops).2.perform op).2 := by
  induction ops generalizing v with
  | nil => rfl
  | cons first ops ih =>
      rw [List.cons_append, run, run]
      exact ih (v.perform first).2

/-- Whatever was done with a vectorizer before, a fit at the end makes it one that has
learnt from these documents only. -/
theorem run_fit_learnt {settings : VectorizerSettings} {v : Vectorizer}
    (hmake : make settings = .ok v) (ops : List Operation)
    (documents : List String) :
    (v.run (ops ++ [.fit documents])).2.Learnt documents ∧
      (v.run (ops ++ [.fit documents])).2 = (fresh settings).fit documents := by
  have hfresh : fresh settings = v := eq_of_checked_eq_ok hmake
  have hlast : (v.run (ops ++ [.fit documents])).2 = v.fit documents := by
    rw [run_append]
    exact v.fit_run ops documents
  rw [hlast]
  exact ⟨v.fit_learnt documents, by rw [hfresh]⟩

/-- What was learnt from one text is forgotten for two others. -/
theorem run_fit_learnt_refitted :
    make .standard = .ok (fresh .standard) ∧
      ((fresh .standard).run
        ([.fit ["old news"], .transform "news"] ++
          [.fit ["good news today", "news"]])).2.Learnt
        ["good news today", "news"] ∧
      ((fresh .standard).run
        ([.fit ["old news"], .transform "news"] ++
          [.fit ["good news today", "news"]])).2 =
        (fresh .standard).fit ["good news today", "news"] :=
  ⟨rfl, run_fit_learnt rfl [.fit ["old news"], .transform "news"]
    ["good news today", "news"]⟩

end run

end Vectorizer

end Credence
