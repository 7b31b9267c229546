/-
What is scored and what it depends on.  Two lists of binary codes of one length are
scored and no others.  Their metrics come from how often each pair of codes stands in
them, so that neither the order of the pairs nor the names of the classes matter.
-/
import Credence.Proofs.Metrics
import Credence.Proofs.TrainingSet
import Mathlib.Data.List.Count
import Mathlib.Data.Prod.Basic

namespace Credence

namespace Verdict

theorem code_flip (v : Verdict) : v.flip.code = 1 - v.code := by
  cases v <;> rfl

/-- The codes of a pair tell which pair it is. -/
theorem codes_injective : Function.Injective (Prod.map code code) :=
  Function.Injective.prodMap (fun _ _ => code_injective) (fun _ _ => code_injective)

/-- Each verdict stands in front of one of two. -/
theorem count_fst (pairs : List (Verdict × Verdict)) (v : Verdict) :
    (pairs.map Prod.fst).count v =
      pairs.count (v, positive) + pairs.count (v, negative) := by
  induction pairs with
  | nil => rfl
  | cons pair pairs ih =>
      rcases pair with ⟨truth, guess⟩
      rw [List.map_cons, List.count_cons, List.count_cons, List.count_cons, ih]
      cases truth <;> cases guess <;> cases v <;> simp <;> omega

end Verdict

namespace Confusion

/-- How often each of the four pairs of truth and prediction was met. -/
theorem ofPairs_eq (pairs : List (Verdict × Verdict)) :
    ofPairs pairs =
      ⟨pairs.count (.positive, .positive), pairs.count (.negative, .negative),
        pairs.count (.negative, .positive), pairs.count (.positive, .negative)⟩ := by
  -- by induction on the pairs, from any counts that there are before
  have hfold (c : Confusion) : pairs.foldl add c =
      ⟨c.truePositives + pairs.count (.positive, .positive),
        c.trueNegatives + pairs.count (.negative, .negative),
        c.falsePositives + pairs.count (.negative, .positive),
        c.falseNegatives + pairs.count (.positive, .negative)⟩ := by
    induction pairs generalizing c with
    | nil => rfl
    | cons pair pairs ih =>
        rcases pair with ⟨truth, guess⟩
        rw [List.foldl_cons, ih]
        cases truth <;> cases guess <;> simp [add, Nat.add_assoc, Nat.add_comm 1]
  rw [ofPairs, hfold]
  simp [empty]

theorem ofPairs_perm {pairs others : List (Verdict × Verdict)}
    (h : others.Perm pairs) : ofPairs others = ofPairs pairs := by
  simp only [ofPairs_eq, h.count_eq]

/-- With both classes renamed, a pair counts where the other class would count it. -/
theorem swap_add (c : Confusion) (pair : Verdict × Verdict) :
    (c.add pair).swap = c.swap.add (pair.map Verdict.flip Verdict.flip) := by
  rcases pair with ⟨truth, guess⟩
  cases truth <;> cases guess <;> rfl

theorem swap_ofPairs (pairs : List (Verdict × Verdict)) :
    (ofPairs pairs).swap =
      ofPairs (pairs.map (Prod.map Verdict.flip Verdict.flip)) := by
  rw [ofPairs, ofPairs, List.foldl_map]
  exact (List.foldl_hom swap fun c pair => (swap_add c pair).symm).symm

end Confusion

/-- Two lists of one length that hold binary codes only. -/
structure Scorable (actual predicted : List Nat) : Prop where
  length_eq : actual.length = predicted.length
  binary : ∀ code ∈ actual ++ predicted, code = 0 ∨ code = 1

variable {α : Type} [Fractional α]

/-- The counts in some metrics are those of the pairs of codes. -/
structure Metrics.Counts (m : Metrics α) (actual predicted : List Nat) : Prop where
  truePositives_eq : m.confusion.truePositives = (actual.zip predicted).count (1, 1)
  trueNegatives_eq : m.confusion.trueNegatives = (actual.zip predicted).count (0, 0)
  falsePositives_eq : m.confusion.falsePositives = (actual.zip predicted).count (0, 1)
  falseNegatives_eq : m.confusion.falseNegatives = (actual.zip predicted).count (1, 0)
  total_eq : m.confusion.total = actual.length
  positive_eq : m.positive.support = actual.count 1
  negative_eq : m.negative.support = actual.count 0
  macroAverage_eq : m.macroAverage.support = actual.length

/-- The same predictions, scored with the classes taken for each other. -/
structure Metrics.Mirrors (m mirrored : Metrics α) : Prop where
  confusion_eq : mirrored.confusion =
    ⟨m.confusion.trueNegatives, m.confusion.truePositives,
      m.confusion.falseNegatives, m.confusion.falsePositives⟩
  positive_eq : mirrored.positive = m.negative
  negative_eq : mirrored.negative = m.positive
  accuracy_eq : mirrored.accuracy = m.accuracy

namespace Metrics

theorem mirrors_swap (c : Confusion) :
    (ofConfusion (α := α) c).Mirrors (ofConfusion c.swap) where
  confusion_eq := rfl
  positive_eq := rfl
  negative_eq := rfl
  accuracy_eq := by
    have hright : c.swap.truePositives + c.swap.trueNegatives =
        c.truePositives + c.trueNegatives := Nat.add_comm _ _
    have htotal : c.swap.total = c.total := by
      simp only [Confusion.total, Confusion.swap]
      omega
    simp only [ofConfusion, hright, htotal]

theorem counts_ofPairs {truth guesses : List Verdict}
    (hlength : truth.length = guesses.length) :
    (ofPairs (α := α) (truth.zip guesses)).Counts (truth.map (·.code))
      (guesses.map (·.code)) := by
  have hpair (v w : Verdict) :
      ((truth.map (·.code)).zip (guesses.map (·.code))).count (v.code, w.code) =
        (truth.zip guesses).count (v, w) := by
    rw [List.zip_map]
    exact List.count_map_of_injective _ _ Verdict.codes_injective (v, w)
  have hclass (v : Verdict) : (truth.map (·.code)).count v.code =
      (truth.zip guesses).count (v, .positive) +
        (truth.zip guesses).count (v, .negative) := by
    rw [List.count_map_of_injective _ _ (fun _ _ => Verdict.code_injective),
      ← Verdict.count_fst, List.map_fst_zip (Nat.le_of_eq hlength)]
  have htotal := Confusion.total_ofPairs (truth.zip guesses)
  rw [List.length_zip, ← hlength, Nat.min_self, Confusion.ofPairs_eq] at htotal
  rw [ofPairs, Confusion.ofPairs_eq]
  constructor
  · exact (hpair .positive .positive).symm
  · exact (hpair .negative .negative).symm
  · exact (hpair .negative .positive).symm
  · exact (hpair .positive .negative).symm
  · rw [List.length_map]
    exact htotal
  · exact (hclass .positive).symm
  · exact (Nat.add_comm _ _).trans (hclass .negative).symm
  · rw [List.length_map, ← htotal]
    simp only [ofConfusion, ClassMetrics.mean, ClassMetrics.ofConfusion,
      Confusion.swap, Confusion.total]
    omega

end Metrics

/-- Codes that can be scored are the codes of verdicts. -/
theorem Scorable.exists_verdicts {actual predicted : List Nat}
    (h : Scorable actual predicted) :
    ∃ truth guesses : List Verdict, truth.length = guesses.length ∧
      truth.map (·.code) = actual ∧ guesses.map (·.code) = predicted := by
  obtain ⟨truth, rfl⟩ := Verdict.exists_map_code_eq fun code hcode =>
    h.binary code (List.mem_append_left predicted hcode)
  obtain ⟨guesses, rfl⟩ := Verdict.exists_map_code_eq fun code hcode =>
    h.binary code (List.mem_append_right _ hcode)
  have hlength := h.length_eq
  rw [List.length_map, List.length_map] at hlength
  exact ⟨truth, guesses, hlength, rfl, rfl⟩

theorem evaluate_of_length_ne {actual predicted : List Nat}
    (h : actual.length ≠ predicted.length) :
    evaluate (α := α) actual predicted =
      .error (.lengthMismatch actual.length predicted.length) := by
  rw [evaluate, if_pos h]
  rfl

/-- A code that is not binary, in either list, is refused for what it is. -/
theorem exists_evaluate_eq_error {actual predicted : List Nat}
    (hlength : actual.length = predicted.length)
    (hbad : ∃ code ∈ actual ++ predicted, ¬ (code = 0 ∨ code = 1)) :
    ∃ e, evaluate (α := α) actual predicted = .error e ∧ e.kind = .typeMismatch := by
  have hrefused {codes : List Nat} {e : Error}
      (h : codes.mapM Verdict.ofCode = .error e) : e.kind = .typeMismatch := by
    obtain ⟨code, -, hcode⟩ := exists_of_mapM_eq_error h
    exact (Verdict.ofCode_eq_error hcode).2
  rw [evaluate, if_neg (not_not.mpr hlength)]
  cases htruth : actual.mapM Verdict.ofCode with
  | error e => exact ⟨e, rfl, hrefused htruth⟩
  | ok truth =>
      cases hguesses : predicted.mapM Verdict.ofCode with
      | error e => exact ⟨e, rfl, hrefused hguesses⟩
      | ok guesses =>
          obtain ⟨code, hcode, hbad⟩ := hbad
          have hactual := Verdict.eq_map_code_of_mapM_ofCode htruth
          have hpredicted := Verdict.eq_map_code_of_mapM_ofCode hguesses
          rw [hactual, hpredicted, ← List.map_append] at hcode
          exact absurd (Verdict.binary_of_eq_map_code rfl code hcode) hbad

theorem exists_evaluate_eq_error_iff (actual predicted : List Nat) (kind : ErrorKind) :
    (∃ e, evaluate (α := α) actual predicted = .error e ∧ e.kind = kind) ↔
      (actual.length ≠ predicted.length ∧ kind = .shapeMismatch) ∨
      (actual.length = predicted.length ∧
        (∃ code ∈ actual ++ predicted, ¬ (code = 0 ∨ code = 1)) ∧
        kind = .typeMismatch) := by
  constructor
  · rintro ⟨e, herror, rfl⟩
    by_cases hlength : actual.length = predicted.length
    · by_cases hbad : ∃ code ∈ actual ++ predicted, ¬ (code = 0 ∨ code = 1)
      · obtain ⟨e', herror', hkind⟩ := exists_evaluate_eq_error (α := α) hlength hbad
        rw [herror] at herror'
        cases herror'
        exact Or.inr ⟨hlength, hbad, hkind⟩
      · push Not at hbad
        obtain ⟨truth, guesses, hverdicts, rfl, rfl⟩ :=
          (Scorable.mk hlength hbad).exists_verdicts
        rw [evaluate_eq_ok hverdicts] at herror
        cases herror
    · rw [evaluate_of_length_ne hlength] at herror
      cases herror
      exact Or.inl ⟨hlength, rfl⟩
  · rintro (⟨hlength, rfl⟩ | ⟨hlength, hbad, rfl⟩)
    · exact ⟨_, evaluate_of_length_ne hlength, rfl⟩
    · exact exists_evaluate_eq_error hlength hbad

section scorable

variable {actual predicted others replies : List Nat}

theorem Scorable.of_perm (h : Scorable actual predicted)
    (hlength : others.length = replies.length)
    (hperm : (others.zip replies).Perm (actual.zip predicted)) :
    Scorable others replies := by
  obtain ⟨hactual, hpredicted⟩ := perm_of_zip_perm h.length_eq hlength hperm
  constructor
  · exact hlength
  · intro code hcode
    exact h.binary code ((hactual.append hpredicted).mem_iff.mp hcode)

/-- The pairs of codes are scored in any order. -/
theorem evaluate_eq_of_perm (h : Scorable actual predicted)
    (hlength : others.length = replies.length)
    (hperm : (others.zip replies).Perm (actual.zip predicted)) :
    evaluate (α := α) others replies = evaluate actual predicted := by
  obtain ⟨truth', guesses', hverdicts', rfl, rfl⟩ :=
    (h.of_perm hlength hperm).exists_verdicts
  obtain ⟨truth, guesses, hverdicts, rfl, rfl⟩ := h.exists_verdicts
  rw [List.zip_map, List.zip_map, List.map_perm_map_iff Verdict.codes_injective] at hperm
  rw [evaluate_eq_ok hverdicts, evaluate_eq_ok hverdicts', Metrics.ofPairs,
    Metrics.ofPairs, Confusion.ofPairs_perm hperm]

theorem evaluate_complement {truth guesses : List Verdict}
    (hlength : truth.length = guesses.length) :
    evaluate (α := α) ((truth.map (·.code)).map (1 - ·))
        ((guesses.map (·.code)).map (1 - ·)) =
      .ok (.ofConfusion (Confusion.ofPairs (truth.zip guesses)).swap) := by
  have hflip (verdicts : List Verdict) : (verdicts.map (·.code)).map (1 - ·) =
      (verdicts.map (·.flip)).map (·.code) := by
    rw [List.map_map, List.map_map]
    exact List.map_congr_left fun v _ => v.code_flip.symm
  have hlength' : (truth.map (·.flip)).length = (guesses.map (·.flip)).length := by
    rw [List.length_map, List.length_map, hlength]
  rw [hflip, hflip, evaluate_eq_ok hlength', Metrics.ofPairs, List.zip_map,
    Confusion.swap_ofPairs]

end scorable

/-- Lists of codes are refused for their lengths first and for a code that is not
binary then.  All others are scored by how often each pair of codes stands in them:
pairs in another order have the same metrics, and codes for the other classes have
them the other way round. -/
theorem evaluate_counts (actual predicted : List Nat) :
    (∀ kind, (∃ e, evaluate (α := α) actual predicted = .error e ∧ e.kind = kind) ↔
      (actual.length ≠ predicted.length ∧ kind = .shapeMismatch) ∨
      (actual.length = predicted.length ∧
        (∃ code ∈ actual ++ predicted, ¬ (code = 0 ∨ code = 1)) ∧
        kind = .typeMismatch)) ∧
    (Scorable actual predicted →
      ∃ m : Metrics α, evaluate actual predicted = .ok m ∧ m.Counts actual predicted ∧
        (∀ others replies : List Nat, others.length = replies.length →
          (others.zip replies).Perm (actual.zip predicted) →
          evaluate others replies = .ok m) ∧
        ∃ mirrored : Metrics α,
          evaluate (actual.map (1 - ·)) (predicted.map (1 - ·)) = .ok mirrored ∧
          m.Mirrors mirrored) := by
  refine ⟨exists_evaluate_eq_error_iff actual predicted, ?_⟩
  intro hgood
  obtain ⟨truth, guesses, hlength, rfl, rfl⟩ := hgood.exists_verdicts
  have hok := evaluate_eq_ok (α := α) hlength
  refine ⟨_, hok, Metrics.counts_ofPairs hlength, ?_, ?_⟩
  · intro others replies hothers hperm
    rw [evaluate_eq_of_perm hgood hothers hperm, hok]
  · exact ⟨_, evaluate_complement hlength, Metrics.mirrors_swap _⟩

/-- Two truths were missed, one was made up and three were met, in two orders. -/
theorem evaluate_counts_missed_and_made_up :
    ∃ m : Metrics Float, evaluate [1, 0, 1, 1, 0, 1] [0, 1, 1, 0, 0, 1] = .ok m ∧
      evaluate [0, 1, 1, 0, 1, 1] [0, 1, 0, 1, 1, 0] = .ok m ∧
      m.confusion = ⟨2, 1, 1, 2⟩ ∧ m.positive.support = 4 ∧ m.negative.support = 2 ∧
      ∃ mirrored : Metrics Float,
        evaluate [0, 1, 0, 0, 1, 0] [1, 0, 0, 1, 1, 0] = .ok mirrored ∧
        m.Mirrors mirrored := by
  obtain ⟨-, hscored⟩ :=
    evaluate_counts (α := Float) [1, 0, 1, 1, 0, 1] [0, 1, 1, 0, 0, 1]
  obtain ⟨m, hok, hcounts, hperm, hmirrored⟩ := hscored ⟨rfl, by decide⟩
  refine ⟨m, hok, hperm _ _ rfl (by decide), ?_, hcounts.positive_eq,
    hcounts.negative_eq, hmirrored⟩
  rcases hm : m.confusion with ⟨tp, tn, fp, fn⟩
  obtain ⟨htp, htn, hfp, hfn, -⟩ := hcounts
  rw [hm] at htp htn hfp hfn
  exact Confusion.mk.injEq .. ▸ ⟨htp, htn, hfp, hfn⟩

end Credence
