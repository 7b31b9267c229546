/-
What a vectorizer makes of a text: once it has learnt from some documents, it turns
every text into a row with one feature for each of their terms.
-/
import Credence.Proofs.Traversal
import Credence.Proofs.Vectorizer.Census
import Credence.Vectorizer

namespace Credence

namespace TermTable

@[simp] theorem size_countTerm (t : TermTable) (x : Features) (term : String) :
    (t.countTerm x term).size = x.size := by
  rw [countTerm]
  split
  · exact Array.size_modify
  · rfl

@[simp] theorem size_counts (t : TermTable) (words : List String) :
    (t.counts words).size = t.vocabulary.size := by
  induction words using List.reverseRecOn with
  | nil => exact Array.size_replicate
  | append_singleton words word ih =>
      rw [counts, List.foldl_append]
      exact (t.size_countTerm _ word).trans ih

@[simp] theorem size_features (t : TermTable) (words : List String) :
    (t.features words).size = t.vocabulary.size := by
  simp only [features]
  split
  · rw [Array.size_mapIdx, size_counts]
  · exact t.size_counts words

end TermTable

namespace Vectorizer

/-- What a vectorizer learns from some documents. -/
def tableOf (v : Vectorizer) (documents : List String) : TermTable :=
  .ofDocuments v.settings.weighting (documents.map v.terms)

theorem table_fit (v : Vectorizer) (documents : List String) :
    (v.fit documents).table = v.tableOf documents := rfl

theorem isSome_table?_fit (v : Vectorizer) (documents : List String) :
    (v.fit documents).table?.isSome := rfl

theorem make_eq_ok {s : VectorizerSettings} (h : s.problem? = none) :
    make s = .ok (fresh s) := by
  simp only [make, checked, h]

/-- The features of a text by what was learnt. -/
def row (v : Vectorizer) (text : String) : Features :=
  v.table.features (v.terms text)

@[simp] theorem size_row (v : Vectorizer) (text : String) :
    (v.row text).size = v.table.vocabulary.size :=
  v.table.size_features (v.terms text)

theorem transform_eq_ok {v : Vectorizer} (h : v.table?.isSome)
    (text : String) : v.transform text = .ok (v.row text) := by
  obtain ⟨table, htable⟩ := Option.isSome_iff_exists.mp h
  simp only [transform, row, Vectorizer.table, htable, Option.getD_some]

theorem transformAll_eq_ok {v : Vectorizer} (h : v.table?.isSome)
    (texts : List String) : v.transformAll texts = .ok (texts.map v.row) :=
  mapM_eq_ok_map fun text _ => transform_eq_ok h text

/-- Vectorizers that weigh alike and find the same terms in the documents learn the
same from them. -/
theorem tableOf_congr {v w : Vectorizer} {documents : List String}
    (hweighting : v.settings.weighting = w.settings.weighting)
    (hterms : ∀ text ∈ documents, v.terms text = w.terms text) :
    v.tableOf documents = w.tableOf documents := by
  rw [tableOf, tableOf, hweighting, List.map_congr_left hterms]

theorem mem_terms_tableOf (v : Vectorizer) (documents : List String)
    {term : String} :
    term ∈ (v.tableOf documents).vocabulary.terms ↔
      ∃ text ∈ documents, term ∈ v.terms text := by
  refine (Census.ofDocuments_covers _).mem_terms_iff.trans ?_
  simp

end Vectorizer

end Credence
