/-
What tweet normalization leaves: the words of the text without links and marks,
with one space between them.  Doing it again changes nothing.
-/
import Credence.Proofs.Text.Lowercase
import Credence.Proofs.Text.Spacing
import Credence.Analysis.Analyzer

namespace Credence.Analysis.Tweet

open Text

/-- Word characters are no punctuation. -/
theorem blankPunctuation_append {word : List Char}
    (h : ∀ c ∈ word, isWord c = true) (rest : List Char) :
    blankPunctuation (word ++ rest) = word ++ blankPunctuation rest := by
  have hkept : blankPunctuation word = word := by
    rw [blankPunctuation, List.map_congr_left (g := id) (by simp +contextual [h]),
      List.map_id]
  rw [blankPunctuation, List.map_append, ← blankPunctuation, ← blankPunctuation, hkept]

/-- Any other character is a blank or becomes one. -/
theorem blankPunctuation_gap {c : Char} (h : isWord c = false) (rest : List Char) :
    ∃ d, isWord d = false ∧ isBlank d = true
      ∧ blankPunctuation (c :: rest) = d :: blankPunctuation rest := by
  cases hc : isBlank c with
  | true => exact ⟨c, h, hc, by simp [blankPunctuation, hc]⟩
  | false => exact ⟨' ', rfl, rfl, by simp [blankPunctuation, h, hc]⟩

/-- Blanking punctuation keeps the words. -/
theorem words_blankPunctuation (s : List Char) :
    words (blankPunctuation s) = words s := by
  induction s using wordInduction with
  | nil => rfl
  | gap c rest hc ih =>
    obtain ⟨d, hd, -, heq⟩ := blankPunctuation_gap hc rest
    rw [heq, words_gap hd, words_gap hc, ih]
  | word word rest h ih =>
    have hwhole : WholeWord word (blankPunctuation rest) := by
      refine ⟨h.nonempty, h.isWord_of_mem, ?_⟩
      have hends := h.ends
      cases rest with
      | nil => rfl
      | cons c rest =>
        obtain ⟨d, hd, -, heq⟩ := blankPunctuation_gap (by simpa using hends) rest
        simp [heq, hd]
    rw [blankPunctuation_append h.isWord_of_mem, words_append hwhole, words_append h, ih]

/-- Then there are only word characters and blanks. -/
theorem isBlank_of_mem_blankPunctuation {s : List Char} {c : Char}
    (h : c ∈ blankPunctuation s) (hc : isWord c = false) : isBlank c = true := by
  obtain ⟨d, -, hd⟩ := List.mem_map.mp h
  cases hkept : isWord d || isBlank d with
  | true =>
    obtain rfl : d = c := by simpa [hkept] using hd
    simpa [hc] using hkept
  | false =>
    obtain rfl : ' ' = c := by simpa [hkept] using hd
    rfl

/-- Characters that are not blank stay where they are. -/
theorem collapseBlanks_append {word : List Char}
    (h : ∀ c ∈ word, isBlank c = false) (rest : List Char) :
    collapseBlanks (word ++ rest) = word ++ collapseBlanks rest := by
  induction word with
  | nil => rfl
  | cons c word ih =>
    obtain ⟨hc, hword⟩ := List.forall_mem_cons.mp h
    simp [collapseBlanks, hc, ih hword]

theorem collapseBlanks_blank {c : Char} (h : isBlank c = true) (rest : List Char) :
    collapseBlanks (c :: rest)
      = (if rest.head?.any isBlank then [] else [' ']) ++ collapseBlanks rest := by
  rw [collapseBlanks, if_pos h]
  split <;> rfl

/-- With the blanks collapsed, words and blanks are the spaced words, and at most
one space at each end. -/
theorem collapseBlanks_eq {s : List Char}
    (h : ∀ c ∈ s, isWord c = false → isBlank c = true) :
    ∃ back, (back = [] ∨ back = [' ']) ∧ (words s = [] → back = [])
      ∧ collapseBlanks s
        = (if s.head?.any isBlank then [' '] else []) ++ (spaced (words s) ++ back) := by
  induction s using wordInduction with
  | nil => exact ⟨[], .inl rfl, fun _ => rfl, rfl⟩
  | gap c rest hc ih =>
    obtain ⟨hblank, hrest⟩ := List.forall_mem_cons.mp h
    obtain ⟨back, hback, hnone, heq⟩ := ih hrest
    refine ⟨back, hback, by rwa [words_gap hc], ?_⟩
    rw [collapseBlanks_blank (hblank hc), heq, words_gap hc]
    cases hhead : rest.head?.any isBlank <;> simp [hblank hc]
  | word word rest hword ih =>
    obtain ⟨back, hback, hnone, heq⟩ :=
      ih fun c hc => h c (List.mem_append_right word hc)
    have hfirst : (word ++ rest).head?.any isBlank = false := by
      rw [List.head?_append_of_ne_nil _ hword.nonempty,
        List.head?_eq_some_head hword.nonempty]
      exact isBlank_of_isWord (hword.isWord_of_mem _ (List.head_mem _))
    have hplain : ∀ c ∈ word, isBlank c = false :=
      fun c hc => isBlank_of_isWord (hword.isWord_of_mem c hc)
    rw [collapseBlanks_append hplain, heq, words_append hword, hfirst]
    cases rest with
    | nil => exact ⟨[], .inl rfl, fun _ => rfl, by simp [hnone]⟩
    | cons d rest =>
      -- what follows the word is a blank, and becomes one space
      have hd : isBlank d = true := h d (by simp) (by simpa using hword.ends)
      by_cases hlast : words (d :: rest) = []
      · refine ⟨[' '], .inr rfl, by simp, ?_⟩
        simp [hlast, hnone hlast, hd]
      · refine ⟨back, hback, by simp, ?_⟩
        rw [spaced_cons hlast]
        simp [hd]

/-- Blanking punctuation, collapsing blanks and trimming leave the spaced words. -/
theorem trimChars_collapseBlanks (s : List Char) :
    trimChars (collapseBlanks (blankPunctuation s)) = spaced (words s) := by
  obtain ⟨back, hback, -, heq⟩ := collapseBlanks_eq (s := blankPunctuation s)
    fun c hc => isBlank_of_mem_blankPunctuation hc
  obtain ⟨hfirst, hlast⟩ := spaced_ends (areWords_words s)
  rw [heq, words_blankPunctuation]
  refine trimChars_padded ?_ ?_ hfirst hlast
  · split <;> simp [show isBlank ' ' = true from rfl]
  · rcases hback with rfl | rfl <;> simp [show isBlank ' ' = true from rfl]

/-- The text with the marks of names and topics dropped. -/
def dropMarks (s : List Char) : List Char := dropMark '#' (dropMark '@' s)

/-- The text with links replaced and marks dropped, from which the words come. -/
def unmarked (s : List Char) : List Char := dropMarks (replaceLinks s)

/-- The normal form is made of words with one space between them. -/
theorem normalizeChars_eq (s : List Char) :
    normalizeChars s = spaced (words (unmarked (lowercaseChars s))) :=
  trimChars_collapseBlanks _

/-- Dropping marks puts in nothing new. -/
theorem mem_of_mem_dropMark {mark c : Char} {s : List Char}
    (h : c ∈ dropMark mark s) : c ∈ s := by
  induction s with
  | nil => exact h
  | cons d rest ih =>
    rw [dropMark] at h
    split at h
    · exact List.mem_cons_of_mem d (ih h)
    · rcases List.mem_cons.mp h with rfl | h
      · exact List.mem_cons_self
      · exact List.mem_cons_of_mem d (ih h)

/-- A text without the mark stays as it is. -/
theorem dropMark_of_not_mem {mark : Char} {s : List Char} (h : mark ∉ s) :
    dropMark mark s = s := by
  induction s with
  | nil => rfl
  | cons d rest ih =>
    rw [List.mem_cons, not_or] at h
    rw [dropMark, if_neg (fun hd => h.1 hd.1.symm), ih h.2]

/-- The schemes that a link can begin with. -/
def linkSchemes : List (List Char) := ["http://".toList, "https://".toList]

theorem afterScheme?_eq_some {s rest : List Char} (h : afterScheme? s = some rest) :
    ∃ scheme ∈ linkSchemes, s = scheme ++ rest := by
  unfold afterScheme? at h
  split at h
  · exact ⟨"http://".toList, by simp [linkSchemes], by simp_all⟩
  · exact ⟨"https://".toList, by simp [linkSchemes], by simp_all⟩
  · contradiction

/-- A link in front of a text is a scheme and a character that is not blank, and it
ends at the next blank. -/
theorem afterLink?_eq_some {s rest : List Char} (h : afterLink? s = some rest) :
    ∃ scheme ∈ linkSchemes, ∃ c tail, isBlank c = false
      ∧ s = scheme ++ c :: tail ∧ rest = tail.dropWhile (!isBlank ·) := by
  unfold afterLink? at h
  split at h
  · rename_i c tail htail
    obtain ⟨scheme, hmem, rfl⟩ := afterScheme?_eq_some htail
    split at h
    · contradiction
    · rename_i hc
      exact ⟨scheme, hmem, c, tail, by simpa using hc, rfl, (Option.some.inj h).symm⟩
  · contradiction

/-- What stands behind a link is a part of the text. -/
theorem mem_of_afterLink? {s rest : List Char} (h : afterLink? s = some rest) {c : Char}
    (hc : c ∈ rest) : c ∈ s := by
  obtain ⟨scheme, -, d, tail, -, rfl, rfl⟩ := afterLink?_eq_some h
  have htail : c ∈ tail := (List.dropWhile_sublist _).subset hc
  simp [htail]

/-- Replacing links puts in the placeholder and nothing else. -/
theorem mem_of_mem_replaceLinksWith {fuel : Nat} {c : Char} {s : List Char}
    (h : c ∈ replaceLinksWith fuel s) : c ∈ s ∨ c ∈ linkWord := by
  induction fuel generalizing s with
  | zero => exact .inl h
  | succ fuel ih =>
    unfold replaceLinksWith at h
    split at h
    · rename_i rest hlink
      rcases List.mem_append.mp h with h | h
      · exact .inr h
      · exact (ih h).imp_left (mem_of_afterLink? hlink)
    · split at h
      · exact .inl h
      · rcases List.mem_cons.mp h with rfl | h
        · exact .inl List.mem_cons_self
        · exact (ih h).imp_left (List.mem_cons_of_mem _)

/-- A text has a link in it: a scheme, and a character behind it that is not
blank. -/
def HasLink (s : List Char) : Prop :=
  ∃ before, ∃ scheme ∈ linkSchemes, ∃ c after, isBlank c = false
    ∧ s = before ++ (scheme ++ c :: after)

/-- A link in front of a text is a link in it. -/
theorem hasLink_of_afterLink? {s rest : List Char} (h : afterLink? s = some rest) :
    HasLink s := by
  obtain ⟨scheme, hmem, c, tail, hc, rfl, -⟩ := afterLink?_eq_some h
  exact ⟨[], scheme, hmem, c, tail, hc, rfl⟩

theorem HasLink.cons {s : List Char} (h : HasLink s) (c : Char) : HasLink (c :: s) := by
  obtain ⟨before, scheme, hscheme, d, after, hd, rfl⟩ := h
  exact ⟨c :: before, scheme, hscheme, d, after, hd, rfl⟩

/-- A text without links stays as it is. -/
theorem replaceLinksWith_of_not_hasLink {s : List Char} (h : ¬ HasLink s)
    (fuel : Nat) : replaceLinksWith fuel s = s := by
  induction fuel generalizing s with
  | zero => rfl
  | succ fuel ih =>
    have hnone : afterLink? s = none := by
      cases hlink : afterLink? s with
      | none => rfl
      | some rest => exact absurd (hasLink_of_afterLink? hlink) h
    cases s with
    | nil => simp [replaceLinksWith, hnone]
    | cons c rest => simp [replaceLinksWith, hnone, ih fun hrest => h (hrest.cons c)]

theorem replaceLinks_of_not_hasLink {s : List Char} (h : ¬ HasLink s) :
    replaceLinks s = s :=
  replaceLinksWith_of_not_hasLink h s.length

/-- Every link has a colon. -/
theorem HasLink.colon_mem {s : List Char} (h : HasLink s) : ':' ∈ s := by
  obtain ⟨before, scheme, hscheme, c, after, -, rfl⟩ := h
  have hcolon : ':' ∈ scheme := by
    simp only [linkSchemes, List.mem_cons, List.not_mem_nil, or_false] at hscheme
    rcases hscheme with rfl | rfl <;> simp
  simp [hcolon]

/-- A text without marks and colons keeps all its characters but for the spacing. -/
theorem unmarked_of_not_mem {s : List Char} (hcolon : ':' ∉ s) (hat : '@' ∉ s)
    (hhash : '#' ∉ s) : unmarked s = s := by
  rw [unmarked, replaceLinks_of_not_hasLink fun h => hcolon h.colon_mem, dropMarks,
    dropMark_of_not_mem hat, dropMark_of_not_mem hhash]

/-- Words in lower case are so with one space between them. -/
theorem lowercaseChars_spaced {ws : List (List Char)}
    (h : ∀ w ∈ ws, ∀ c ∈ w, IsLower c) : lowercaseChars (spaced ws) = spaced ws := by
  apply lowercaseChars_of_isLower
  intro c hc
  rcases mem_spaced hc with rfl | ⟨w, hw, hc⟩
  · exact ⟨by decide, by decide, by decide⟩
  · exact h w hw c hc

/-- The words of the normal form are in lower case, the placeholder among them. -/
theorem isLower_of_mem_words {s w : List Char} {c : Char} (hc : c ∈ w)
    (hw : w ∈ words (unmarked (lowercaseChars s))) : IsLower c := by
  have hkept := mem_of_mem_dropMark (mem_of_mem_dropMark (mem_of_mem_words hc hw))
  rcases mem_of_mem_replaceLinksWith hkept with hlower | hlink
  · exact isLower_of_mem_lowercaseChars hlower
  · simp only [linkWord, List.mem_cons, List.not_mem_nil, or_false] at hlink
    rcases hlink with rfl | rfl | rfl <;> exact ⟨by decide, by decide, by decide⟩

/-- Words in lower case with one space between them are a normal form. -/
theorem normalizeChars_spaced {ws : List (List Char)} (hwords : AreWords ws)
    (hlower : ∀ w ∈ ws, ∀ c ∈ w, IsLower c) :
    normalizeChars (spaced ws) = spaced ws := by
  have habsent : ∀ c : Char, c ≠ ' ' → isWord c = false → c ∉ spaced ws := by
    intro c hspace hword hc
    rcases mem_spaced hc with rfl | ⟨w, hw, hc⟩
    · exact hspace rfl
    · simp [(hwords w hw).2 c hc] at hword
  rw [normalizeChars_eq, lowercaseChars_spaced hlower,
    unmarked_of_not_mem (habsent _ (by decide) (by decide))
      (habsent _ (by decide) (by decide)) (habsent _ (by decide) (by decide)),
    words_spaced hwords]

/-- The normal form is in lower case. -/
theorem lowercaseChars_normalizeChars (s : List Char) :
    lowercaseChars (normalizeChars s) = normalizeChars s := by
  rw [normalizeChars_eq]
  exact lowercaseChars_spaced fun _ hw _ hc => isLower_of_mem_words hc hw

/-- A normal form is its own normal form. -/
theorem normalizeChars_normalizeChars (s : List Char) :
    normalizeChars (normalizeChars s) = normalizeChars s := by
  rw [normalizeChars_eq s]
  exact normalizeChars_spaced (areWords_words _)
    fun _ hw _ hc => isLower_of_mem_words hc hw

theorem normalize_normalize (s : String) : normalize (normalize s) = normalize s := by
  simp [normalize, normalizeChars_normalizeChars]

/-- A normal form is left alone by any number of rounds. -/
theorem filterRounds_of_normalize {text : String} (h : normalize text = text) (n : Nat) :
    Analyzer.filterRounds n text = text := by
  induction n with
  | zero => rfl
  | succ n ih => rw [Analyzer.filterRounds, h, ih]

/-- More than one round does what one round does. -/
theorem filterRounds_succ (n : Nat) (text : String) :
    Analyzer.filterRounds (n + 1) text = normalize text :=
  filterRounds_of_normalize (normalize_normalize text) n

/-- The normal form of a text is nothing or runs of word characters with one space
between them.  It is its own normal form, so an analyzer with several rounds gives
the tokens of one round. -/
theorem normalize_canonical (s : String) :
    (∃ ws : List String, (∀ w ∈ ws, w ≠ "" ∧ ∀ c ∈ w.toList, isWord c = true)
        ∧ normalize s = " ".intercalate ws)
      ∧ normalize (normalize s) = normalize s
      ∧ ∀ (a : Analyzer) (n : Nat),
        (a.withTweetRounds (n + 1)).tokens s = (a.withTweetRounds 1).tokens s := by
  refine ⟨⟨(words (unmarked (lowercaseChars s.toList))).map String.ofList, ?_, ?_⟩,
    normalize_normalize s, fun a n => ?_⟩
  · intro w hw
    obtain ⟨chars, hchars, rfl⟩ := List.mem_map.mp hw
    simpa using areWords_words _ chars hchars
  · rw [normalize, normalizeChars_eq, ← String.toList_inj, String.toList_intercalate]
    simp [spaced, Function.comp_def]
  · have hprepare : ∀ n, (a.withTweetRounds (n + 1)).prepare s
        = lowercase (normalize s) := fun n => congrArg lowercase (filterRounds_succ n s)
    rw [Analyzer.tokens, hprepare n, Analyzer.tokens, hprepare 0]
    rfl

end Credence.Analysis.Tweet
