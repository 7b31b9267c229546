/-
When predictions can be scored: two lists of binary codes of one length always
can.  Each pair of codes is counted once.
-/
import Credence.Metrics
import Credence.Proofs.Traversal

namespace Credence

namespace Confusion

theorem total_add (c : Confusion) (pair : Verdict × Verdict) :
    (c.add pair).total = c.total + 1 := by
  rcases pair with ⟨truth, guess⟩
  cases truth <;> cases guess <;> simp only [add, total] <;> omega

theorem total_ofPairs (pairs : List (Verdict × Verdict)) :
    (ofPairs pairs).total = pairs.length := by
  have hfold (c : Confusion) :
      (pairs.foldl add c).total = c.total + pairs.length := by
    induction pairs generalizing c with
    | nil => rfl
    | cons pair pairs ih =>
        rw [List.foldl_cons, ih, total_add, List.length_cons]
        omega
  rw [ofPairs, hfold]
  exact Nat.zero_add _

end Confusion

variable {α : Type} [Fractional α]

theorem evaluate_eq_ok {truth guesses : List Verdict}
    (hlength : truth.length = guesses.length) :
    evaluate (α := α) (truth.map (·.code)) (guesses.map (·.code)) =
      .ok (Metrics.ofPairs (truth.zip guesses)) := by
  simp only [evaluate, List.length_map, hlength, ne_eq, not_true_eq_false,
    if_false, Verdict.mapM_ofCode]
  rfl

/-- Nothing but the pairs of codes is counted, and none of them is left out. -/
theorem total_of_evaluate_eq_ok {actual predicted : List Nat} {m : Metrics α}
    (h : evaluate actual predicted = .ok m) :
    m.confusion.total = actual.length := by
  rw [evaluate] at h
  by_cases hlength : actual.length = predicted.length
  · rw [if_neg (not_not.mpr hlength)] at h
    obtain ⟨-, -, h⟩ := bind_eq_ok_iff.mp h
    obtain ⟨truth, htruth, h⟩ := bind_eq_ok_iff.mp h
    obtain ⟨guesses, hguesses, h⟩ := bind_eq_ok_iff.mp h
    cases h
    have htruth := congrArg List.length (mapM_eq_ok_iff.mp htruth)
    have hguesses := congrArg List.length (mapM_eq_ok_iff.mp hguesses)
    simp only [List.length_map] at htruth hguesses
    change (Confusion.ofPairs _).total = _
    rw [Confusion.total_ofPairs, List.length_zip]
    omega
  · rw [if_pos hlength] at h
    cases h

end Credence
