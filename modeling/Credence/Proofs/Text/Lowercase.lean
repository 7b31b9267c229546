/-
Lower case is settled after one pass: what the case tables make of a character
is a character that they leave alone.
-/
import Mathlib.Data.String.Basic
import Credence.Text.Lowercase

namespace Credence.Text

def CaseRun.members (run : CaseRun) : List Nat :=
  (List.range ((run.last - run.first) / run.step + 1)).map (run.first + run.step * ·)

/-- The lower-case partners of the code points of a run. -/
def CaseRun.images (run : CaseRun) : List Nat :=
  run.members.map fun code : Nat => ((code : Int) + run.shift).toNat

/-- The code points that lower case replaces: ASCII capitals, the dotted capital
I, the capital sigma, and the runs of the table. -/
def changedCodes : List Nat :=
  List.range' 0x41 26 ++ [0x130, 0x3A3] ++ caseRuns.toList.flatMap CaseRun.members

/-- The code points that lower case puts in the place of others. -/
def loweredCodes : List Nat :=
  List.range' 0x61 26 ++ [0x69, 0x307, 0x3C2, 0x3C3]
    ++ caseRuns.toList.flatMap CaseRun.images

/-- Code points as the bits of one number.  Long lists are compared in one step
that way. -/
def codeSet (codes : List Nat) : Nat :=
  codes.foldr (fun code set => set ||| 1 <<< code) 0

theorem testBit_codeSet (codes : List Nat) (code : Nat) :
    (codeSet codes).testBit code = decide (code ∈ codes) := by
  induction codes with
  | nil => simp [codeSet]
  | cons first codes ih =>
    have hcons : codeSet (first :: codes) = codeSet codes ||| 2 ^ first := by
      simp [codeSet, Nat.one_shiftLeft]
    rw [hcons, Nat.testBit_or, ih, Nat.testBit_two_pow]
    simp [Bool.or_comm, eq_comm]

/-- Nothing that lower case puts in is replaced again. -/
theorem loweredCodes_disjoint {code : Nat} (h : code ∈ loweredCodes) :
    code ∉ changedCodes := by
  have hdisjoint : codeSet loweredCodes &&& codeSet changedCodes = 0 := by
    decide +kernel
  intro hchanged
  have hbit := congrArg (Nat.testBit · code) hdisjoint
  simp [testBit_codeSet, h, hchanged] at hbit

/-- One step of the search, at a place of the table that holds a run.  The table is
too long for the search to be unfolded. -/
theorem caseRunBetween?_of_some {code fuel low high : Nat} {run : CaseRun}
    (hbounds : low < high) (hrun : caseRuns[(low + high) / 2]? = some run) :
    caseRunBetween? code (fuel + 1) low high
      = if code < run.first then caseRunBetween? code fuel low ((low + high) / 2)
        else if run.last < code then
          caseRunBetween? code fuel ((low + high) / 2 + 1) high
        else some run := by
  change (if low < high then _ else none) = _
  rw [if_pos hbounds]
  dsimp only
  rw [hrun]

/-- Elsewhere the search ends. -/
theorem caseRunBetween?_of_none {code fuel low high : Nat}
    (h : low < high → caseRuns[(low + high) / 2]? = none) :
    caseRunBetween? code (fuel + 1) low high = none := by
  change (if low < high then _ else none) = _
  split
  · rename_i hbounds
    dsimp only
    rw [h hbounds]
  · rfl

/-- A run found by halving is one of the table, and its ends enclose the code
point. -/
theorem caseRunBetween?_sound {code fuel low high : Nat} {run : CaseRun}
    (h : caseRunBetween? code fuel low high = some run) :
    run ∈ caseRuns.toList ∧ run.first ≤ code ∧ code ≤ run.last := by
  induction fuel generalizing low high with
  | zero => exact absurd h (Option.some_ne_none run).symm
  | succ fuel ih =>
    by_cases hfound : low < high ∧ ∃ found, caseRuns[(low + high) / 2]? = some found
    · obtain ⟨hbounds, found, hfound⟩ := hfound
      rw [caseRunBetween?_of_some hbounds hfound] at h
      split at h
      · exact ih h
      · split at h
        · exact ih h
        · obtain rfl := Option.some.inj h
          exact ⟨Array.mem_toList_iff.mpr (Array.mem_of_getElem? hfound),
            by omega, by omega⟩
    · have hnone : caseRunBetween? code (fuel + 1) low high = none :=
        caseRunBetween?_of_none fun hbounds =>
          Option.eq_none_iff_forall_ne_some.mpr fun found hsome =>
            hfound ⟨hbounds, found, hsome⟩
      rw [hnone] at h
      contradiction

/-- A code point of a run at a whole number of steps is a member. -/
theorem CaseRun.mem_members {run : CaseRun} {code : Nat} (hfirst : run.first ≤ code)
    (hlast : code ≤ run.last) (hstep : (code - run.first) % run.step = 0) :
    code ∈ run.members := by
  refine List.mem_map.mpr ⟨(code - run.first) / run.step, ?_, ?_⟩
  · have := Nat.div_le_div_right (c := run.step) (Nat.sub_le_sub_right hlast run.first)
    simp only [List.mem_range]
    omega
  · have := Nat.mul_div_cancel' (Nat.dvd_of_mod_eq_zero hstep)
    omega

/-- All the partners in the table are code points of characters. -/
theorem toNat_ofNat_of_mem_images {run : CaseRun} (hrun : run ∈ caseRuns.toList)
    {code : Nat} (h : code ∈ run.images) : (Char.ofNat code).toNat = code := by
  have hall : caseRuns.toList.all (fun run => run.images.all fun code =>
      decide code.isValidChar) = true := by decide +kernel
  have hvalid : code.isValidChar := of_decide_eq_true
    (List.all_eq_true.mp (List.all_eq_true.mp hall run hrun) code h)
  rw [Char.ofNat, dif_pos hvalid]
  rfl

/-- A character in ASCII stays as it is or is a capital that gets its partner. -/
theorem lowerChar_ascii {c : Char} (h : c.toNat < 0x80) :
    lowerChar c = c
      ∨ c.toNat ∈ changedCodes ∧ (lowerChar c).toNat ∈ loweredCodes := by
  have hall : ∀ code < 0x80, lowerChar (Char.ofNat code) = Char.ofNat code
      ∨ code ∈ List.range' 0x41 26
        ∧ (lowerChar (Char.ofNat code)).toNat ∈ List.range' 0x61 26 := by
    decide +kernel
  rcases Char.ofNat_toNat c ▸ hall c.toNat h with hsame | ⟨hupper, hlower⟩
  · exact .inl hsame
  · exact .inr ⟨by simp [changedCodes, hupper], by simp [loweredCodes, hlower]⟩

/-- A character stays as it is, or it is one that lower case replaces, and then it
gets one that lower case puts in. -/
theorem lowerChar_eq_or (c : Char) :
    lowerChar c = c
      ∨ c.toNat ∈ changedCodes ∧ (lowerChar c).toNat ∈ loweredCodes := by
  by_cases hascii : c.toNat < 0x80
  · exact lowerChar_ascii hascii
  · simp only [lowerChar, if_neg hascii]
    split
    · rename_i run hfound
      obtain ⟨hrun, hfirst, hlast⟩ := caseRunBetween?_sound hfound
      split
      · rename_i hstep
        have hmember := CaseRun.mem_members hfirst hlast hstep
        have himage : ((c.toNat : Int) + run.shift).toNat ∈ run.images :=
          List.mem_map.mpr ⟨_, hmember, rfl⟩
        rw [toNat_ofNat_of_mem_images hrun himage]
        refine .inr ⟨?_, ?_⟩
        · exact List.mem_append_right _ (List.mem_flatMap.mpr ⟨run, hrun, hmember⟩)
        · exact List.mem_append_right _ (List.mem_flatMap.mpr ⟨run, hrun, himage⟩)
      · exact .inl rfl
    · exact .inl rfl

/-- A character that lower case leaves alone, whatever stands around it. -/
structure IsLower (c : Char) : Prop where
  same : lowerChar c = c
  not_dotted : c ≠ 'İ'
  not_sigma : c ≠ 'Σ'

/-- What lower case puts in is left alone. -/
theorem isLower_of_mem {c : Char} (h : c.toNat ∈ loweredCodes) : IsLower c := by
  have hnot := loweredCodes_disjoint h
  refine ⟨(lowerChar_eq_or c).resolve_right fun hchanged => hnot hchanged.1, ?_, ?_⟩
  · rintro rfl
    exact hnot (by simp [changedCodes])
  · rintro rfl
    exact hnot (by simp [changedCodes])

/-- What a character becomes on its own is left alone, unless it is one of the
two that are looked at apart. -/
theorem isLower_lowerChar {c : Char} (hdotted : c ≠ 'İ') (hsigma : c ≠ 'Σ') :
    IsLower (lowerChar c) := by
  rcases lowerChar_eq_or c with hsame | ⟨-, hlower⟩
  · rw [hsame]
    exact ⟨hsame, hdotted, hsigma⟩
  · exact isLower_of_mem hlower

/-- Every character of a text in lower case is left alone by lower case. -/
theorem isLower_of_mem_lowercaseAfter {s before : List Char} {c : Char}
    (h : c ∈ lowercaseAfter before s) : IsLower c := by
  induction s generalizing before with
  | nil => simp [lowercaseAfter] at h
  | cons first rest ih =>
    rw [lowercaseAfter, List.mem_append] at h
    rcases h with h | h
    · split at h
      · simp only [List.mem_cons, List.not_mem_nil, or_false] at h
        rcases h with rfl | rfl <;> exact isLower_of_mem (by simp [loweredCodes])
      · split at h
        · rw [List.mem_singleton.mp h, smallSigma]
          split <;> exact isLower_of_mem (by simp [loweredCodes])
        · rw [List.mem_singleton.mp h]
          exact isLower_lowerChar ‹_› ‹_›
    · exact ih h

theorem isLower_of_mem_lowercaseChars {s : List Char} {c : Char}
    (h : c ∈ lowercaseChars s) : IsLower c :=
  isLower_of_mem_lowercaseAfter h

/-- A text of such characters is in lower case. -/
theorem lowercaseAfter_of_isLower {s : List Char} (h : ∀ c ∈ s, IsLower c)
    (before : List Char) : lowercaseAfter before s = s := by
  induction s generalizing before with
  | nil => rfl
  | cons first rest ih =>
    have hfirst := h first (by simp)
    rw [lowercaseAfter, ih (fun c hc => h c (by simp [hc])), if_neg hfirst.not_dotted,
      if_neg hfirst.not_sigma, hfirst.same, List.singleton_append]

theorem lowercaseChars_of_isLower {s : List Char} (h : ∀ c ∈ s, IsLower c) :
    lowercaseChars s = s :=
  lowercaseAfter_of_isLower h []

end Credence.Text
