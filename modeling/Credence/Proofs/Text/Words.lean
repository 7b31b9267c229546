/-
The words of a text: its maximal runs of word characters, in order and with the
bytes they lie at.
-/
import Mathlib.Data.List.DropRight
import Mathlib.Data.String.Basic
import Credence.Text.Pattern

namespace Credence.Text

/-- A word stands whole in front of a text: it has a character, all of them are
word characters, and the text does not go on with another one. -/
structure WholeWord (word rest : List Char) : Prop where
  nonempty : word ≠ []
  isWord_of_mem : ∀ c ∈ word, isWord c = true
  ends : rest.head?.any isWord = false

/-- A word character and those that follow it directly are a whole word. -/
theorem WholeWord.ofHead {c : Char} (hc : isWord c = true) (rest : List Char) :
    WholeWord (c :: rest.takeWhile isWord) (rest.dropWhile isWord) := by
  refine ⟨by simp, ?_, ?_⟩
  · simp only [List.mem_cons, forall_eq_or_imp]
    exact ⟨hc, fun _ hx => List.mem_takeWhile_imp hx⟩
  · have hhead := List.head?_dropWhile_not isWord rest
    cases hd : (rest.dropWhile isWord).head? with
    | none => rfl
    | some x => rw [hd] at hhead; simpa using hhead

/-- A text that begins with a word character has one. -/
theorem exists_cons_of_isWord {s : List Char} (h : s.head?.any isWord = true) :
    ∃ c rest, isWord c = true ∧ s = c :: rest := by
  cases s with
  | nil => simp at h
  | cons c rest => exact ⟨c, rest, by simpa using h, rfl⟩

theorem WholeWord.exists_cons {word rest : List Char} (h : WholeWord word rest) :
    ∃ c tail, isWord c = true ∧ word = c :: tail := by
  obtain ⟨c, tail, rfl⟩ := List.exists_cons_of_ne_nil h.nonempty
  exact ⟨c, tail, h.isWord_of_mem c List.mem_cons_self, rfl⟩

/-- Texts grow in front by a character outside of words or by a whole word. -/
@[elab_as_elim]
theorem wordInduction {motive : List Char → Prop} (nil : motive [])
    (gap : ∀ c rest, isWord c = false → motive rest → motive (c :: rest))
    (word : ∀ word rest, WholeWord word rest → motive rest →
      motive (word ++ rest)) (s : List Char) : motive s := by
  induction hn : s.length using Nat.strong_induction_on generalizing s with
  | _ n ih =>
    cases s with
    | nil => exact nil
    | cons c rest =>
      cases hc : isWord c with
      | false => exact gap c rest hc (ih rest.length (by simp [← hn]) rest rfl)
      | true =>
        have hshort : (rest.dropWhile isWord).length < n := by
          have hle := List.length_dropWhile_le isWord rest
          simp only [List.length_cons] at hn
          omega
        have hwhole := word _ _ (WholeWord.ofHead hc rest) (ih _ hshort _ rfl)
        simpa [List.takeWhile_append_dropWhile] using hwhole

/-- The words of a text, cut out by splitting at every other character. -/
def words (s : List Char) : List (List Char) :=
  (s.splitOnP (!isWord ·)).filter (!·.isEmpty)

@[simp]
theorem words_nil : words [] = [] := by
  simp [words]

theorem words_gap {c : Char} (hc : isWord c = false) (rest : List Char) :
    words (c :: rest) = words rest := by
  simp [words, List.splitOnP_cons_eq_if_modifyHead, hc]

theorem words_append {word rest : List Char} (h : WholeWord word rest) :
    words (word ++ rest) = word :: words rest := by
  have hword : ∀ c ∈ word, (!isWord c) = false := by
    simpa using h.isWord_of_mem
  cases rest with
  | nil => simp [words, List.splitOnP_eq_singleton hword, h.nonempty]
  | cons c rest =>
    have hc : isWord c = false := by simpa using h.ends
    rw [words_gap hc, words,
      List.splitOnP_append_cons_of_forall_mem hword c (by simp [hc])]
    simp [words, h.nonempty]

/-- The words of a text that begins at the byte `offset`, with their bytes. -/
def wordSpans (offset : Nat) : List Char → List Span
  | [] => []
  | c :: rest =>
      if isWord c then
        let word := c :: rest.takeWhile isWord
        let stop := offset + String.utf8Len word
        ⟨String.ofList word, offset, stop⟩
          :: wordSpans stop (rest.dropWhile isWord)
      else wordSpans (offset + c.utf8Size) rest
termination_by s => s.length
decreasing_by
  · exact Nat.lt_succ_of_le (List.length_dropWhile_le isWord rest)
  · simp

@[simp]
theorem wordSpans_nil (offset : Nat) : wordSpans offset [] = [] := by
  simp [wordSpans]

theorem wordSpans_gap {c : Char} (hc : isWord c = false) (offset : Nat)
    (rest : List Char) :
    wordSpans offset (c :: rest) = wordSpans (offset + c.utf8Size) rest := by
  simp [wordSpans, hc]

/-- In front of a text that does not go on with a word character, word characters are
what is taken, and the text is what is left. -/
theorem takeWhile_isWord {word rest : List Char} (hword : ∀ c ∈ word, isWord c = true)
    (hends : rest.head?.any isWord = false) :
    (word ++ rest).takeWhile isWord = word ∧ (word ++ rest).dropWhile isWord = rest := by
  rw [List.takeWhile_append_of_pos hword, List.dropWhile_append_of_pos hword]
  cases rest with
  | nil => simp
  | cons c rest => simp_all

/-- The characters behind the first one of a whole word, and what is behind them. -/
theorem WholeWord.takeWhile_tail {c : Char} {word rest : List Char}
    (h : WholeWord (c :: word) rest) :
    (word ++ rest).takeWhile isWord = word ∧ (word ++ rest).dropWhile isWord = rest :=
  takeWhile_isWord (fun x hx => h.isWord_of_mem x (List.mem_cons_of_mem c hx)) h.ends

theorem wordSpans_append {word rest : List Char} (h : WholeWord word rest)
    (offset : Nat) :
    wordSpans offset (word ++ rest)
      = ⟨String.ofList word, offset, offset + String.utf8Len word⟩
        :: wordSpans (offset + String.utf8Len word) rest := by
  obtain ⟨c, word, hc, rfl⟩ := h.exists_cons
  obtain ⟨htake, hdrop⟩ := h.takeWhile_tail
  simp [wordSpans, hc, htake, hdrop]

/-- The bytes do not matter for which words there are. -/
theorem texts_wordSpans (s : List Char) (offset : Nat) :
    (wordSpans offset s).map (·.text) = (words s).map String.ofList := by
  induction s using wordInduction generalizing offset with
  | nil => simp
  | gap c rest hc ih => rw [wordSpans_gap hc, words_gap hc, ih]
  | word word rest h ih => simp [wordSpans_append h, words_append h, ih]

/-- A stretch is a maximal run of word characters of a text that begins at the
byte `offset`: no word character stands right before or right behind it, and the
bytes of its ends are where it was cut out. -/
def IsRunAt (offset : Nat) (s : List Char) (span : Span) : Prop :=
  ∃ before word after, s = before ++ (word ++ after) ∧ WholeWord word after
    ∧ before.getLast?.any isWord = false
    ∧ span = ⟨String.ofList word, offset + String.utf8Len before,
        offset + String.utf8Len before + String.utf8Len word⟩

theorem not_isRunAt_nil (offset : Nat) (span : Span) :
    ¬ IsRunAt offset [] span := by
  rintro ⟨before, word, after, hcut, hword, -, -⟩
  have hempty : word = [] := by simp_all
  exact hword.nonempty hempty

theorem isRunAt_gap {c : Char} (hc : isWord c = false) {offset : Nat}
    {rest : List Char} {span : Span} :
    IsRunAt offset (c :: rest) span
      ↔ IsRunAt (offset + c.utf8Size) rest span := by
  constructor
  · rintro ⟨before, word, after, hcut, hword, hbefore, rfl⟩
    cases before with
    | nil =>
      -- the run cannot begin with the character outside of words
      obtain ⟨d, word, hd, rfl⟩ := hword.exists_cons
      simp only [List.nil_append, List.cons_append, List.cons.injEq] at hcut
      rw [← hcut.1, hc] at hd
      contradiction
    | cons d before =>
      simp only [List.cons_append, List.cons.injEq] at hcut
      obtain ⟨rfl, rfl⟩ := hcut
      refine ⟨before, word, after, rfl, hword, ?_, ?_⟩
      · cases before with
        | nil => rfl
        | cons e before => simpa [List.getLast?_cons] using hbefore
      · simp only [String.utf8Len_cons, Span.mk.injEq, true_and]
        omega
  · rintro ⟨before, word, after, rfl, hword, hbefore, rfl⟩
    refine ⟨c :: before, word, after, rfl, hword, ?_, ?_⟩
    · cases before with
      | nil => simpa using hc
      | cons e before => simpa [List.getLast?_cons] using hbefore
    · simp only [String.utf8Len_cons, Span.mk.injEq, true_and]
      omega

/-- Nothing but word characters ends with a word character. -/
theorem WholeWord.getLast?_isWord {word rest : List Char}
    (h : WholeWord word rest) : word.getLast?.any isWord = true := by
  obtain ⟨c, hc⟩ := Option.isSome_iff_exists.mp
    (by simpa using h.nonempty : word.getLast?.isSome)
  rw [hc]
  exact h.isWord_of_mem c (List.mem_of_getLast? hc)

theorem isRunAt_append {word rest : List Char} (h : WholeWord word rest)
    {offset : Nat} {span : Span} :
    IsRunAt offset (word ++ rest) span
      ↔ span = ⟨String.ofList word, offset, offset + String.utf8Len word⟩
        ∨ IsRunAt (offset + String.utf8Len word) rest span := by
  constructor
  · rintro ⟨before, other, after, hcut, hother, hbefore, rfl⟩
    rcases List.append_eq_append_iff.mp hcut with ⟨gap, rfl, hrest⟩ | ⟨tail, hword, htail⟩
    · -- the other run lies behind this word
      refine .inr ⟨gap, other, after, hrest, hother, ?_, ?_⟩
      · cases hgap : gap.getLast? with
        | none =>
          rw [List.getLast?_eq_none_iff.mp hgap, List.append_nil,
            h.getLast?_isWord] at hbefore
          contradiction
        | some d => simpa [List.getLast?_append, hgap] using hbefore
      · simp only [String.utf8Len_append, Span.mk.injEq, true_and]
        omega
    · -- it begins inside this word, so at its front
      cases hlast : before.getLast? with
      | some d =>
        have hd : isWord d = true :=
          h.isWord_of_mem d (by simp [hword, List.mem_of_getLast? hlast])
        rw [hlast] at hbefore
        simp [hd] at hbefore
      | none =>
        obtain rfl := List.getLast?_eq_none_iff.mp hlast
        simp only [List.nil_append] at hcut
        have hsame : word = other := by
          rw [← (takeWhile_isWord h.isWord_of_mem h.ends).1, hcut,
          (takeWhile_isWord hother.isWord_of_mem hother.ends).1]
        exact .inl (by simp [hsame])
  · rintro (rfl | ⟨before, other, after, rfl, hother, hbefore, rfl⟩)
    · exact ⟨[], word, rest, rfl, h, rfl, by simp⟩
    · have hgap : before ≠ [] := by
        rintro rfl
        obtain ⟨d, other, hd, rfl⟩ := hother.exists_cons
        simpa [hd] using h.ends
      refine ⟨word ++ before, other, after, by simp, hother, ?_, ?_⟩
      · rwa [List.getLast?_append_of_ne_nil _ hgap]
      · simp only [String.utf8Len_append, Span.mk.injEq, true_and]
        omega

/-- The listed words are the maximal runs, all of them and nothing else. -/
theorem mem_wordSpans_iff {s : List Char} {offset : Nat} {span : Span} :
    span ∈ wordSpans offset s ↔ IsRunAt offset s span := by
  induction s using wordInduction generalizing offset with
  | nil => simp [not_isRunAt_nil]
  | gap c rest hc ih => rw [wordSpans_gap hc, isRunAt_gap hc, ih]
  | word word rest h ih =>
    rw [wordSpans_append h, isRunAt_append h, List.mem_cons, ih]

/-- A run lies behind the beginning of its text, or there if the text begins with
a word character. -/
theorem IsRunAt.offset_le {offset : Nat} {s : List Char} {span : Span}
    (h : IsRunAt offset s span) :
    offset ≤ span.start
      ∧ (s.head?.any isWord = false → offset < span.start) := by
  obtain ⟨before, word, after, rfl, hword, -, rfl⟩ := h
  refine ⟨Nat.le_add_right _ _, fun hhead => ?_⟩
  cases before with
  | nil =>
    obtain ⟨d, word, hd, rfl⟩ := hword.exists_cons
    simp [hd] at hhead
  | cons c before =>
    have := c.utf8Size_pos
    simp only [String.utf8Len_cons]
    omega

/-- Every word begins behind the end of the one before it, at a distance. -/
theorem wordSpans_apart (s : List Char) (offset : Nat) :
    (wordSpans offset s).Pairwise fun a b => a.stop < b.start := by
  induction s using wordInduction generalizing offset with
  | nil => simp
  | gap c rest hc ih => rw [wordSpans_gap hc]; exact ih _
  | word word rest h ih =>
    rw [wordSpans_append h]
    refine List.pairwise_cons.mpr ⟨fun span hspan => ?_, ih _⟩
    exact (mem_wordSpans_iff.mp hspan).offset_le.2 h.ends

/-- Around every word character of a text there is a run that holds its byte. -/
theorem exists_isRunAt_around (offset : Nat) (before after : List Char) {c : Char}
    (hc : isWord c = true) :
    ∃ span, IsRunAt offset (before ++ c :: after) span
      ∧ span.start ≤ offset + String.utf8Len before
      ∧ offset + String.utf8Len before < span.stop := by
  have hsplit : before = before.rdropWhile isWord ++ before.rtakeWhile isWord :=
    List.rdropWhile_append_rtakeWhile.symm
  have hlen := congrArg String.utf8Len hsplit
  rw [String.utf8Len_append] at hlen
  have hpos := c.utf8Size_pos
  refine ⟨_, ⟨before.rdropWhile isWord,
    before.rtakeWhile isWord ++ c :: after.takeWhile isWord,
    after.dropWhile isWord, ?_, ⟨by simp, ?_, (WholeWord.ofHead hc after).ends⟩,
    ?_, rfl⟩, ?_, ?_⟩
  · rw [List.append_assoc, List.cons_append, List.takeWhile_append_dropWhile,
      ← List.append_assoc, ← hsplit]
  · intro x hx
    rcases List.mem_append.mp hx with hx | hx
    · exact List.mem_rtakeWhile_imp hx
    · exact (WholeWord.ofHead hc after).isWord_of_mem x hx
  · cases hlast : (before.rdropWhile isWord).getLast? with
    | none => rfl
    | some d =>
      have hne : before.rdropWhile isWord ≠ [] := by
        rintro hnil; simp [hnil] at hlast
      have hd := List.rdropWhile_last_not isWord before hne
      rw [List.getLast?_eq_some_getLast hne, Option.some.injEq] at hlast
      simpa [hlast] using hd
  · simp only []
    omega
  · simp only [String.utf8Len_append, String.utf8Len_cons]
    omega

end Credence.Text
