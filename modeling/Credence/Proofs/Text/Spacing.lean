/-
Words with single spaces between them: what they look like, and how the words are
found again.
-/
import Credence.Proofs.Text.Words

namespace Credence.Text

def blankCodes : List Nat :=
  List.range' 0x09 5 ++ [0x20, 0x85, 0xA0, 0x1680] ++ List.range' 0x2000 11
    ++ [0x2028, 0x2029, 0x202F, 0x205F, 0x3000]

/-- No blank is a word character. -/
theorem isWord_of_isBlank {c : Char} (h : isBlank c = true) : isWord c = false := by
  have hall : ∀ code ∈ blankCodes, isWord (Char.ofNat code) = false := by
    decide +kernel
  have hmem : c.toNat ∈ blankCodes := by
    simp only [isBlank, Bool.or_eq_true, Bool.and_eq_true, decide_eq_true_eq,
      beq_iff_eq] at h
    simp only [blankCodes, List.mem_append, List.mem_range'_1, List.mem_cons,
      List.not_mem_nil, or_false]
    omega
  simpa [Char.ofNat_toNat] using hall _ hmem

theorem isBlank_of_isWord {c : Char} (h : isWord c = true) : isBlank c = false := by
  cases hc : isBlank c with
  | false => rfl
  | true => simp [isWord_of_isBlank hc] at h

/-- Blanks at the two ends do not matter for what is between them. -/
theorem trimChars_padded {front s back : List Char}
    (hfront : ∀ c ∈ front, isBlank c = true) (hback : ∀ c ∈ back, isBlank c = true)
    (hfirst : s.head?.any isBlank = false) (hlast : s.getLast?.any isBlank = false) :
    trimChars (front ++ (s ++ back)) = s := by
  have hleft : (front ++ (s ++ back)).dropWhile isBlank
      = if s = [] then [] else s ++ back := by
    rw [List.dropWhile_append_of_pos hfront]
    cases s with
    | nil => simpa using hback
    | cons c s => simp_all
  rw [trimChars, hleft]
  split
  · simp_all
  · rw [List.reverse_append, List.dropWhile_append_of_pos (by simpa using hback)]
    rw [← List.head?_reverse] at hlast
    have hkept : s.reverse.dropWhile isBlank = s.reverse := by
      cases hs : s.reverse with
      | nil => rfl
      | cons c rest => simp_all
    rw [hkept, List.reverse_reverse]

/-- Texts that are words, each of them a run of word characters. -/
def AreWords (ws : List (List Char)) : Prop :=
  ∀ w ∈ ws, w ≠ [] ∧ ∀ c ∈ w, isWord c = true

theorem areWords_words (s : List Char) : AreWords (words s) := by
  induction s using wordInduction with
  | nil => simp [AreWords]
  | gap c rest hc ih => rwa [words_gap hc]
  | word word rest h ih =>
    rw [words_append h]
    exact List.forall_mem_cons.mpr ⟨⟨h.nonempty, h.isWord_of_mem⟩, ih⟩

/-- The words of a text are made of its characters. -/
theorem mem_of_mem_words {s w : List Char} {c : Char} (hc : c ∈ w)
    (hw : w ∈ words s) : c ∈ s := by
  induction s using wordInduction with
  | nil => simp at hw
  | gap d rest hd ih =>
    rw [words_gap hd] at hw
    exact List.mem_cons_of_mem d (ih hw)
  | word word rest h ih =>
    rw [words_append h, List.mem_cons] at hw
    rcases hw with rfl | hw
    · exact List.mem_append_left rest hc
    · exact List.mem_append_right word (ih hw)

/-- Words with one space between them. -/
def spaced (ws : List (List Char)) : List Char := [' '].intercalate ws

theorem spaced_cons {ws : List (List Char)} (h : ws ≠ []) (w : List Char) :
    spaced (w :: ws) = w ++ ' ' :: spaced ws := by
  rw [spaced, List.intercalate_cons_of_ne_nil h, List.append_assoc]
  rfl

@[simp]
theorem spaced_nil : spaced [] = [] := rfl

@[simp]
theorem spaced_singleton (w : List Char) : spaced [w] = w := by
  simp [spaced, List.intercalate]

/-- Words with spaces between them are the words of that text. -/
theorem words_spaced {ws : List (List Char)} (h : AreWords ws) :
    words (spaced ws) = ws := by
  induction ws with
  | nil => rfl
  | cons w ws ih =>
    obtain ⟨⟨hne, hword⟩, hws⟩ := List.forall_mem_cons.mp h
    by_cases hlast : ws = []
    · subst hlast
      have hwhole : WholeWord w [] := ⟨hne, hword, rfl⟩
      simpa [spaced_singleton] using words_append hwhole
    · have hwhole : WholeWord w (' ' :: spaced ws) := ⟨hne, hword, rfl⟩
      rw [spaced_cons hlast, words_append hwhole, words_gap (by decide), ih hws]

theorem mem_spaced {ws : List (List Char)} {c : Char} (h : c ∈ spaced ws) :
    c = ' ' ∨ ∃ w ∈ ws, c ∈ w := by
  induction ws with
  | nil => simp [spaced, List.intercalate] at h
  | cons w ws ih =>
    by_cases hlast : ws = []
    · subst hlast
      rw [spaced_singleton] at h
      exact .inr ⟨w, by simp, h⟩
    · rw [spaced_cons hlast, List.mem_append, List.mem_cons] at h
      rcases h with h | h | h
      · exact .inr ⟨w, by simp, h⟩
      · exact .inl h
      · rcases ih h with h | ⟨v, hv, h⟩
        · exact .inl h
        · exact .inr ⟨v, List.mem_cons_of_mem w hv, h⟩

theorem spaced_ne_nil {ws : List (List Char)} (h : AreWords ws) (hws : ws ≠ []) :
    spaced ws ≠ [] := by
  intro hnil
  have := words_spaced h
  rw [hnil, words_nil] at this
  exact hws this.symm

/-- Spaced words neither begin nor end with a blank. -/
theorem spaced_ends {ws : List (List Char)} (h : AreWords ws) :
    (spaced ws).head?.any isBlank = false
      ∧ (spaced ws).getLast?.any isBlank = false := by
  induction ws with
  | nil => exact ⟨rfl, rfl⟩
  | cons w ws ih =>
    obtain ⟨⟨hne, hword⟩, hws⟩ := List.forall_mem_cons.mp h
    have hhead : w.head?.any isBlank = false := by
      rw [List.head?_eq_some_head hne]
      exact isBlank_of_isWord (hword _ (List.head_mem hne))
    have hlast : w.getLast?.any isBlank = false := by
      rw [List.getLast?_eq_some_getLast hne]
      exact isBlank_of_isWord (hword _ (List.getLast_mem hne))
    by_cases hnil : ws = []
    · subst hnil
      exact ⟨by rwa [spaced_singleton], by rwa [spaced_singleton]⟩
    · rw [spaced_cons hnil]
      refine ⟨by rwa [List.head?_append_of_ne_nil _ hne], ?_⟩
      rw [List.getLast?_append_of_ne_nil _ (by simp),
        List.getLast?_cons_of_ne_nil (spaced_ne_nil hws hnil)]
      exact (ih hws).2

end Credence.Text
