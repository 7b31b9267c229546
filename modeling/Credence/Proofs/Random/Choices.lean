/-
Random choices stay in their range.  One number is drawn for several choices with
ranges that follow on each other, and each choice leaves behind a number that is
small enough for the choices after it.
-/
import Credence.Random.Words
import Mathlib.Data.Nat.Factorial.Basic

namespace Credence.Random

/-- The product of a word and a range misses the highest multiple by the range. -/
theorem toNat_mul_add_le (word : UInt32) (range : Nat) :
    word.toNat * range + range ≤ wordCount * range := by
  have hword : word.toNat + 1 ≤ wordCount := word.toNat_lt
  calc word.toNat * range + range
      = (word.toNat + 1) * range := (Nat.succ_mul _ _).symm
    _ ≤ wordCount * range := Nat.mul_le_mul_right range hword

/-- A draw is below its range, also where it is rounded up: a carry needs a low part
near a whole word, which a product with the highest high part does not have. -/
theorem below_lt (w : Words) {range : Nat} (hrange : 0 < range) (position : Nat) :
    (below w range position).1 < range := by
  have hfirst := toNat_mul_add_le (w position) range
  have hsecond := toNat_mul_add_le (w (position + 1)) range
  have hcount : wordCount = 4294967296 := rfl
  rw [hcount] at hfirst hsecond
  rw [below, hcount]
  dsimp only
  split
  · split
    · omega
    · omega
  · omega

theorem ascFactorial_one (m : Nat) : m.ascFactorial 1 = m := Nat.mul_one m

/-- What is multiplied are factors that follow on each other. -/
theorem exists_widen_eq (m fuel : Nat) {count : Nat} (hcount : 0 < count) :
    ∃ total, 0 < total ∧ widen fuel (m.ascFactorial count) (m + count) =
      (m.ascFactorial total, m + total) := by
  induction fuel generalizing count with
  | zero => exact ⟨count, hcount, rfl⟩
  | succ fuel ih =>
      have hproduct : m.ascFactorial count * (m + count) =
          m.ascFactorial (count + 1) := Nat.mul_comm _ _
      rw [widen, hproduct]
      split
      · exact ih (Nat.succ_pos count)
      · exact ⟨count, hcount, rfl⟩

namespace Choices

/-- What is left is enough for as many choices as are left, of which the next is one
out of `m`. -/
def Within (c : Choices) (m : Nat) : Prop :=
  c.left ≠ 0 → c.chunk < m.ascFactorial c.left

section choose

variable (w : Words) {c : Choices} {i : Nat}

theorem Within.refill (h : c.Within (i + 1)) :
    (c.refill w (i + 1)).left ≠ 0 ∧ (c.refill w (i + 1)).Within (i + 1) := by
  rw [Choices.refill]
  split
  · obtain ⟨total, htotal, hwiden⟩ := exists_widen_eq (i + 1) 32 Nat.one_pos
    rw [ascFactorial_one] at hwiden
    rw [hwiden]
    dsimp only [Within]
    rw [Nat.add_sub_cancel_left]
    have hproduct : 0 < (i + 1).ascFactorial total := Nat.ascFactorial_pos i total
    exact ⟨Nat.ne_of_gt htotal, fun _ => below_lt w hproduct c.position⟩
  · next hleft => exact ⟨hleft, h⟩

/-- A choice is one out of as many as it should be, and the next one can be made out
of one more. -/
theorem Within.next (h : c.Within (i + 1)) :
    (c.next w (i + 1)).1 < i + 1 ∧ (c.next w (i + 1)).2.Within (i + 2) := by
  obtain ⟨hleft, hrefilled⟩ := h.refill w
  rw [Choices.next]
  generalize c.refill w (i + 1) = c at hleft hrefilled
  have hchunk := hrefilled hleft
  split
  · next hone =>
      rw [hone, ascFactorial_one] at hchunk
      exact ⟨hchunk, fun hzero => absurd rfl hzero⟩
  · refine ⟨Nat.mod_lt _ (Nat.succ_pos i), fun _ => ?_⟩
    obtain ⟨left, hleft⟩ := Nat.exists_eq_add_one_of_ne_zero hleft
    rw [hleft, Nat.ascFactorial_succ, ← Nat.succ_ascFactorial] at hchunk
    dsimp only
    rw [hleft]
    exact Nat.div_lt_of_lt_mul hchunk

end choose

/-- What is left after the choices out of one, two, and so on, up to `n`. -/
def after (w : Words) (position n : Nat) : Choices :=
  (List.range n).foldl (fun c i => (c.next w (i + 1)).2) ⟨0, 1, position⟩

theorem after_succ (w : Words) (position n : Nat) :
    after w position (n + 1) = ((after w position n).next w (n + 1)).2 := by
  rw [after, List.range_succ, List.foldl_append]
  rfl

theorem after_within (w : Words) (position n : Nat) :
    (after w position n).Within (n + 1) := by
  induction n with
  | zero =>
      intro _
      exact Nat.one_pos
  | succ n ih =>
      rw [after_succ]
      exact (ih.next w).2

end Choices

end Credence.Random
