/-
What dropping marks does to the words of a text: a mark alone between two words
joins them, and so does a topic mark in front of a name mark.  Nothing else does.
-/
import Credence.Proofs.Analysis.Tokens
import Credence.Proofs.Analysis.Tweet
import Credence.Proofs.Vectorizer

namespace Credence.Analysis.Tweet

open Text

/-- What may stand between two words that become one. -/
def isGlue (gap : List Char) : Bool :=
  gap == ['@'] || gap == ['#'] || gap == ['#', '@']

/-- The words of a text, each with what stands between it and the next word or the
end. -/
def wordGaps : List Char → List (List Char × List Char)
  | [] => []
  | c :: rest =>
      if isWord c then
        let behind := rest.dropWhile isWord
        (c :: rest.takeWhile isWord, behind.takeWhile (!isWord ·)) :: wordGaps behind
      else wordGaps rest
termination_by s => s.length
decreasing_by
  · exact Nat.lt_succ_of_le (List.length_dropWhile_le isWord rest)
  · simp

/-- Words joined with the next one across every gap that is glue. -/
def joinAcross : List (List Char × List Char) → List (List Char)
  | [] => []
  | (word, gap) :: rest =>
      match isGlue gap, joinAcross rest with
      | true, next :: others => (word ++ next) :: others
      | _, others => word :: others

@[simp]
theorem wordGaps_nil : wordGaps [] = [] := by
  simp [wordGaps]

theorem wordGaps_gap {c : Char} (hc : isWord c = false) (rest : List Char) :
    wordGaps (c :: rest) = wordGaps rest := by
  simp [wordGaps, hc]

theorem wordGaps_append {word rest : List Char} (h : WholeWord word rest) :
    wordGaps (word ++ rest) = (word, rest.takeWhile (!isWord ·)) :: wordGaps rest := by
  obtain ⟨c, word, hc, rfl⟩ := h.exists_cons
  obtain ⟨htake, hdrop⟩ := h.takeWhile_tail
  simp [wordGaps, hc, htake, hdrop]

theorem map_fst_wordGaps (s : List Char) : (wordGaps s).map (·.1) = words s := by
  induction s using wordInduction with
  | nil => simp
  | gap c rest hc ih => rw [wordGaps_gap hc, words_gap hc, ih]
  | word word rest h ih => simp [wordGaps_append h, words_append h, ih]

/-- Joining neither loses a character of a word nor moves one. -/
theorem flatten_joinAcross (gaps : List (List Char × List Char)) :
    (joinAcross gaps).flatten = (gaps.map (·.1)).flatten := by
  induction gaps with
  | nil => rfl
  | cons first rest ih =>
    rw [List.map_cons, List.flatten_cons, ← ih, joinAcross]
    split
    · rename_i hjoin
      rw [hjoin, List.flatten_cons, List.flatten_cons, List.append_assoc]
    · rw [List.flatten_cons]

theorem isWord_at : isWord '@' = false := by decide

theorem isWord_hash : isWord '#' = false := by decide

/-- Marks are dropped behind a word as they are without it. -/
theorem dropMark_append {mark : Char} (hmark : isWord mark = false) {word : List Char}
    (h : ∀ c ∈ word, isWord c = true) (rest : List Char) :
    dropMark mark (word ++ rest) = word ++ dropMark mark rest := by
  induction word with
  | nil => rfl
  | cons c word ih =>
    obtain ⟨hc, hword⟩ := List.forall_mem_cons.mp h
    have hne : c ≠ mark := by
      rintro rfl
      simp [hc] at hmark
    simp [dropMark, hne, ih hword]

theorem dropMarks_append {word : List Char} (h : ∀ c ∈ word, isWord c = true)
    (rest : List Char) : dropMarks (word ++ rest) = word ++ dropMarks rest := by
  rw [dropMarks, dropMark_append isWord_at h, dropMark_append isWord_hash h, dropMarks]

/-- A character outside of words stays or is dropped. -/
theorem dropMark_cons (mark c : Char) (rest : List Char) :
    ∃ kept, (kept = [] ∨ kept = [c])
      ∧ dropMark mark (c :: rest) = kept ++ dropMark mark rest := by
  rw [dropMark]
  split
  · exact ⟨[], .inl rfl, rfl⟩
  · exact ⟨[c], .inr rfl, rfl⟩

theorem words_dropMarks_gap {c : Char} (hc : isWord c = false) (rest : List Char) :
    words (dropMarks (c :: rest)) = words (dropMarks rest) := by
  have hkept : ∀ kept s, (kept = [] ∨ kept = [c]) → words (kept ++ s) = words s := by
    rintro kept s (rfl | rfl)
    · rfl
    · exact words_gap hc s
  obtain ⟨kept, hk, heq⟩ := dropMark_cons '@' c rest
  rw [dropMarks, heq, dropMarks]
  rcases hk with rfl | rfl
  · rfl
  · obtain ⟨again, ha, heq⟩ := dropMark_cons '#' c (dropMark '@' rest)
    rw [List.singleton_append, heq, hkept again _ ha]

/-- A text begins with a word character once a mark is dropped if it did so before
or the mark stood in front of one. -/
theorem dropMark_head {mark : Char} (hmark : isWord mark = false) (s : List Char) :
    (dropMark mark s).head?.any isWord = true
      ↔ s.head?.any isWord = true
        ∨ ∃ rest, rest.head?.any isWord = true ∧ s = mark :: rest := by
  cases s with
  | nil => simp [dropMark]
  | cons c rest =>
    rw [dropMark]
    split
    · rename_i hdrop
      obtain ⟨rfl, hrest⟩ := hdrop
      obtain ⟨d, tail, hd, rfl⟩ := exists_cons_of_isWord hrest
      have hkept : dropMark c (d :: tail) = d :: dropMark c tail :=
        dropMark_append hmark (List.forall_mem_singleton.mpr hd) tail
      simp [hkept, hd]
    · rename_i hstay
      constructor
      · intro h
        exact .inl (by simpa using h)
      · rintro (h | ⟨tail, htail, heq⟩)
        · simpa using h
        · obtain ⟨rfl, rfl⟩ := List.cons.inj heq
          exact absurd ⟨rfl, htail⟩ hstay

/-- A character in front that is neither a word character nor the mark was there
before. -/
theorem dropMark_eq_cons {mark c : Char} (hmark : isWord mark = false)
    (hc : isWord c = false) {s rest : List Char} (h : dropMark mark s = c :: rest) :
    ∃ tail, s = c :: tail ∧ rest = dropMark mark tail := by
  cases s with
  | nil => simp [dropMark] at h
  | cons d tail =>
    rw [dropMark] at h
    split at h
    · rename_i hdrop
      have hhead := (dropMark_head hmark tail).mpr (.inl hdrop.2)
      simp [h, hc] at hhead
    · obtain ⟨rfl, rfl⟩ := List.cons.inj h
      exact ⟨tail, rfl, rfl⟩

/-- A text begins with a word character once the marks are dropped if it did so
before or glue stood in front of one. -/
theorem dropMarks_head (s : List Char) :
    (dropMarks s).head?.any isWord = true
      ↔ s.head?.any isWord = true
        ∨ ∃ gap after, isGlue gap = true ∧ after.head?.any isWord = true
          ∧ s = gap ++ after := by
  have hkept : ∀ s, dropMark '@' ('#' :: s) = '#' :: dropMark '@' s := fun s => by
    simp [dropMark]
  rw [dropMarks, dropMark_head isWord_hash, dropMark_head isWord_at]
  constructor
  · rintro ((h | ⟨rest, hrest, rfl⟩) | ⟨rest, hrest, heq⟩)
    · exact .inl h
    · exact .inr ⟨['@'], rest, rfl, hrest, rfl⟩
    · obtain ⟨tail, rfl, rfl⟩ := dropMark_eq_cons isWord_at isWord_hash heq
      rcases (dropMark_head isWord_at tail).mp hrest with h | ⟨after, hafter, rfl⟩
      · exact .inr ⟨['#'], tail, rfl, h, rfl⟩
      · exact .inr ⟨['#', '@'], after, rfl, hafter, rfl⟩
  · rintro (h | ⟨gap, after, hgap, hafter, rfl⟩)
    · exact .inl (.inl h)
    · simp only [isGlue, Bool.or_eq_true, beq_iff_eq] at hgap
      rcases hgap with (rfl | rfl) | rfl
      · exact .inl (.inr ⟨after, hafter, rfl⟩)
      · exact .inr ⟨_, (dropMark_head isWord_at after).mpr (.inl hafter), hkept after⟩
      · exact .inr ⟨_, (dropMark_head isWord_at ('@' :: after)).mpr (.inr ⟨after, hafter, rfl⟩),
          hkept ('@' :: after)⟩

/-- A text that begins with a word character begins with a whole word. -/
theorem exists_wholeWord {s : List Char} (h : s.head?.any isWord = true) :
    ∃ word rest, WholeWord word rest ∧ s = word ++ rest := by
  obtain ⟨c, rest, hc, rfl⟩ := exists_cons_of_isWord h
  refine ⟨_, _, WholeWord.ofHead hc rest, ?_⟩
  rw [List.cons_append, List.takeWhile_append_dropWhile]

/-- Glue is made of marks, which are no word characters. -/
theorem isWord_of_glue {gap : List Char} (h : isGlue gap = true) :
    gap ≠ [] ∧ ∀ c ∈ gap, isWord c = false := by
  simp only [isGlue, Bool.or_eq_true, beq_iff_eq] at h
  rcases h with (rfl | rfl) | rfl <;> simp [isWord_at, isWord_hash]

/-- Glue in front of a word is all that stands between it and what is before. -/
theorem takeWhile_of_glue {gap after : List Char} (hgap : isGlue gap = true)
    (hafter : after.head?.any isWord = true) :
    (gap ++ after).takeWhile (!isWord ·) = gap := by
  have houtside : ∀ c ∈ gap, (!isWord c) = true := by
    simpa using (isWord_of_glue hgap).2
  obtain ⟨c, tail, hc, rfl⟩ := exists_cons_of_isWord hafter
  rw [List.takeWhile_append_of_pos houtside, List.takeWhile_cons_of_neg (by simpa using hc),
    List.append_nil]

/-- Only characters outside of words make no words. -/
theorem wordGaps_of_forall {s : List Char} (h : ∀ c ∈ s, isWord c = false) :
    wordGaps s = [] := by
  induction s with
  | nil => exact wordGaps_nil
  | cons c rest ih =>
    obtain ⟨hc, hrest⟩ := List.forall_mem_cons.mp h
    rw [wordGaps_gap hc, ih hrest]

/-- Behind the characters outside of words a text ends or goes on with a word. -/
theorem gap_split (s : List Char) :
    (∀ c ∈ s, isWord c = false)
      ∨ ∃ y after, isWord y = true ∧ s = s.takeWhile (!isWord ·) ++ y :: after := by
  cases hd : s.dropWhile (!isWord ·) with
  | nil => exact .inl (by simpa using List.dropWhile_eq_nil_iff.mp hd)
  | cons y after =>
    have hfirst := List.head?_dropWhile_not (!isWord ·) s
    rw [hd] at hfirst
    have hsplit := List.takeWhile_append_dropWhile (p := (!isWord ·)) (l := s)
    rw [hd] at hsplit
    exact .inr ⟨y, after, by simpa using hfirst, hsplit.symm⟩

/-- Glue in front of a text has no word behind it if dropping the marks leaves no
word character in front. -/
theorem wordGaps_of_glue {s : List Char} (hglue : isGlue (s.takeWhile (!isWord ·)) = true)
    (hhead : (dropMarks s).head?.any isWord = false) : wordGaps s = [] := by
  rcases gap_split s with hnone | ⟨y, after, hy, hsplit⟩
  · exact wordGaps_of_forall hnone
  · have hjoined := (dropMarks_head s).mpr
      (.inr ⟨_, y :: after, hglue, by simpa using hy, hsplit⟩)
    simp [hhead] at hjoined

/-- Dropping marks joins words across glue and does nothing else to them. -/
theorem words_dropMarks (s : List Char) :
    words (dropMarks s) = joinAcross (wordGaps s) := by
  induction s using wordInduction with
  | nil => simp [dropMarks, dropMark, joinAcross]
  | gap c rest hc ih => rw [words_dropMarks_gap hc, wordGaps_gap hc, ih]
  | word word rest h ih =>
    rw [dropMarks_append h.isWord_of_mem, wordGaps_append h, joinAcross]
    cases hhead : (dropMarks rest).head?.any isWord with
    | true =>
      have hglue : isGlue (rest.takeWhile (!isWord ·)) = true := by
        rcases (dropMarks_head rest).mp hhead with hrest | ⟨gap, after, hgap, hafter, rfl⟩
        · simp [h.ends] at hrest
        · rwa [takeWhile_of_glue hgap hafter]
      obtain ⟨next, others, hnext, heq⟩ := exists_wholeWord hhead
      have hjoined : WholeWord (word ++ next) others := by
        refine ⟨by simp [h.nonempty], fun c hc => ?_, hnext.ends⟩
        exact (List.mem_append.mp hc).elim (h.isWord_of_mem c) (hnext.isWord_of_mem c)
      rw [heq, words_append hnext] at ih
      rw [heq, ← ih, hglue, ← List.append_assoc, words_append hjoined]
    | false =>
      have hwhole : WholeWord word (dropMarks rest) :=
        ⟨h.nonempty, h.isWord_of_mem, hhead⟩
      rw [words_append hwhole, ih]
      cases hglue : isGlue (rest.takeWhile (!isWord ·)) with
      | false => rfl
      | true => rw [wordGaps_of_glue hglue hhead, joinAcross]

/-- Two words of a text have nothing but glue between them. -/
def HasGlue (s : List Char) : Prop :=
  ∃ before, ∃ x, ∃ gap, ∃ y, ∃ after, isWord x = true ∧ isWord y = true
    ∧ isGlue gap = true ∧ s = before ++ x :: (gap ++ y :: after)

theorem HasGlue.append {s : List Char} (h : HasGlue s) (front : List Char) :
    HasGlue (front ++ s) := by
  obtain ⟨before, x, gap, y, after, hx, hy, hgap, rfl⟩ := h
  exact ⟨front ++ before, x, gap, y, after, hx, hy, hgap, by simp⟩

/-- Without glue between words nothing is joined. -/
theorem joinAcross_wordGaps {s : List Char} (h : ¬ HasGlue s) :
    joinAcross (wordGaps s) = words s := by
  induction s using wordInduction with
  | nil => simp [joinAcross]
  | gap c rest hc ih =>
    rw [wordGaps_gap hc, words_gap hc, ih fun hrest => h (hrest.append [c])]
  | word word rest hword ih =>
    have hlater := ih fun hrest => h (hrest.append word)
    rw [wordGaps_append hword, words_append hword, joinAcross, hlater]
    cases hglue : isGlue (rest.takeWhile (!isWord ·)) with
    | false => rfl
    | true =>
      rcases gap_split rest with hnone | ⟨y, after, hy, hsplit⟩
      · rw [wordGaps_of_forall hnone, joinAcross] at hlater
        rw [← hlater]
      · refine absurd ⟨word.dropLast, word.getLast hword.nonempty, _, y, after,
          hword.isWord_of_mem _ (List.getLast_mem _), hy, hglue, ?_⟩ h
        rw [← hsplit, ← List.singleton_append, ← List.append_assoc,
          List.dropLast_append_getLast]

/-- A character outside of words in front has no part in glue. -/
theorem HasGlue.of_cons {c : Char} (hc : isWord c = false) {s : List Char}
    (h : HasGlue (c :: s)) : HasGlue s := by
  obtain ⟨before, x, gap, y, after, hx, hy, hgap, heq⟩ := h
  cases before with
  | nil =>
    obtain ⟨rfl, -⟩ := List.cons.inj heq
    simp [hc] at hx
  | cons d before =>
    obtain ⟨-, rfl⟩ := List.cons.inj heq
    exact ⟨before, x, gap, y, after, hx, hy, hgap, rfl⟩

/-- Glue in a text that begins with a word is right behind that word or later. -/
theorem HasGlue.of_append {word rest : List Char} (hword : WholeWord word rest)
    (h : HasGlue (word ++ rest)) :
    HasGlue rest ∨ ∃ gap y after, isGlue gap = true ∧ isWord y = true
      ∧ rest = gap ++ y :: after := by
  obtain ⟨before, x, gap, y, after, hx, hy, hgap, heq⟩ := h
  have hcut : word ++ rest = (before ++ [x]) ++ (gap ++ y :: after) := by simp [heq]
  rcases List.append_eq_append_iff.mp hcut with ⟨front, hfront, hrest⟩ | ⟨tail, htail, hrest⟩
  · rcases List.eq_nil_or_concat front with rfl | ⟨bulk, last, rfl⟩
    · exact .inr ⟨gap, y, after, hgap, hy, hrest⟩
    · have hlast : x = last := by
        have := congrArg List.getLast? hfront
        simpa using this
      exact .inl ⟨bulk, x, gap, y, after, hx, hy, hgap, by simp [hrest, hlast]⟩
  · -- the word cannot reach into the glue
    obtain ⟨hne, houtside⟩ := isWord_of_glue hgap
    obtain ⟨g, gap, rfl⟩ := List.exists_cons_of_ne_nil hne
    cases tail with
    | nil => exact .inr ⟨g :: gap, y, after, hgap, hy, hrest.symm⟩
    | cons t tail =>
      have ht : isWord t = true := hword.isWord_of_mem t (by simp [htail])
      obtain ⟨rfl, -⟩ := List.cons.inj hrest
      simp [houtside g (by simp)] at ht

/-- Joining makes no more words. -/
theorem length_joinAcross_le (gaps : List (List Char × List Char)) :
    (joinAcross gaps).length ≤ gaps.length := by
  induction gaps with
  | nil => rfl
  | cons first rest ih =>
    rw [joinAcross, List.length_cons]
    split
    · rename_i hjoin
      rw [hjoin, List.length_cons] at ih
      rw [List.length_cons]
      omega
    · rw [List.length_cons]
      omega

/-- Where there is glue, joining makes fewer words. -/
theorem length_joinAcross_lt {s : List Char} (h : HasGlue s) :
    (joinAcross (wordGaps s)).length < (words s).length := by
  induction s using wordInduction with
  | nil =>
    obtain ⟨before, x, gap, y, after, -, -, -, heq⟩ := h
    simp at heq
  | gap c rest hc ih =>
    rw [wordGaps_gap hc, words_gap hc]
    exact ih (h.of_cons hc)
  | word word rest hword ih =>
    have hle := length_joinAcross_le (wordGaps rest)
    have hcount : (wordGaps rest).length = (words rest).length := by
      rw [← map_fst_wordGaps, List.length_map]
    rw [wordGaps_append hword, words_append hword, joinAcross, List.length_cons]
    rcases h.of_append hword with hrest | ⟨gap, y, after, hgap, hy, rfl⟩
    · have hfewer := ih hrest
      split
      · rename_i hjoin
        rw [hjoin, List.length_cons] at hfewer
        rw [List.length_cons]
        omega
      · rw [List.length_cons]
        omega
    · have hy' : (y :: after).head?.any isWord = true := by simpa using hy
      rw [takeWhile_of_glue hgap hy', hgap]
      have hhead := (dropMarks_head (gap ++ y :: after)).mpr (.inr ⟨gap, _, hgap, hy', rfl⟩)
      obtain ⟨next, others, hnext, heq⟩ := exists_wholeWord hhead
      have hjoin : joinAcross (wordGaps (gap ++ y :: after)) = next :: words others := by
        rw [← words_dropMarks, heq, words_append hnext]
      rw [hjoin, List.length_cons] at hle
      rw [hjoin, List.length_cons]
      omega

/-- Joining changes the words of a text exactly where there is glue. -/
theorem joinAcross_wordGaps_iff (s : List Char) :
    joinAcross (wordGaps s) = words s ↔ ¬ HasGlue s := by
  refine ⟨fun heq hglue => ?_, joinAcross_wordGaps⟩
  have hfewer := length_joinAcross_lt hglue
  rw [heq] at hfewer
  exact Nat.lt_irrefl _ hfewer

/-- The words of the normal form of a text without links. -/
theorem words_normalizeChars {s : List Char} (h : ¬ HasLink (lowercaseChars s)) :
    words (normalizeChars s) = joinAcross (wordGaps (lowercaseChars s)) := by
  rw [normalizeChars_eq, words_spaced (areWords_words _), unmarked,
    replaceLinks_of_not_hasLink h, words_dropMarks]

/-- The words that a filter by length keeps, as texts. -/
def longWords (least : Nat) (ws : List (List Char)) : List String :=
  (ws.map String.ofList).filter fun w => decide (max least 1 ≤ w.toList.length)

theorem plain_terms_eq (least : Nat) (text : String) :
    (Analyzer.standard.withMinLength least).terms text
      = longWords least (words (lowercaseChars text.toList)) := by
  have hterms := Analyzer.terms_eq (a := Analyzer.standard.withMinLength least)
    Tokenizer.words_ends text
  rwa [Analyzer.prepare_standard, lowercase, String.toList_ofList] at hterms

theorem tweet_terms_eq (least : Nat) (text : String) :
    ((Analyzer.standard.withTweetRounds 1).withMinLength least).terms text
      = longWords least (words (normalizeChars text.toList)) := by
  have hterms := Analyzer.terms_eq
    (a := (Analyzer.standard.withTweetRounds 1).withMinLength least)
    Tokenizer.words_ends text
  have hprepare :
      ((Analyzer.standard.withTweetRounds 1).withMinLength least).prepare text
        = String.ofList (normalizeChars text.toList) := by
    simp only [Analyzer.prepare, Analyzer.withMinLength, Analyzer.withTweetRounds,
      Analyzer.filterRounds, normalize, lowercase, String.toList_ofList,
      lowercaseChars_normalizeChars]
  have hleast : ((Analyzer.standard.withTweetRounds 1).withMinLength least).minLength
      = max least 1 := rfl
  rw [hprepare, String.toList_ofList, hleast] at hterms
  exact hterms

/-- A filter that keeps every word keeps different words apart. -/
theorem longWords_one_inj {ws vs : List (List Char)} (hws : AreWords ws)
    (hvs : AreWords vs) (h : longWords 1 ws = longWords 1 vs) : ws = vs := by
  have hall : ∀ {ws : List (List Char)}, AreWords ws →
      longWords 1 ws = ws.map String.ofList := by
    intro ws hws
    refine List.filter_eq_self.mpr fun w hw => ?_
    obtain ⟨chars, hchars, rfl⟩ := List.mem_map.mp hw
    have hlong : 1 ≤ chars.length := List.length_pos_iff.mpr (hws chars hchars).1
    simpa using hlong
  rw [hall hws, hall hvs] at h
  exact List.map_injective_iff.mpr (fun _ _ => String.ofList_inj.mp) h

/-- An address is one word once its mark is dropped, and two words before: there is
no link in it, and still the terms differ. -/
theorem tweet_terms_join_address :
    ¬ HasLink (lowercaseChars "a@b".toList)
      ∧ Analyzer.standard.terms "a@b" = ["a", "b"]
      ∧ (Analyzer.standard.withTweetRounds 1).terms "a@b" = ["ab"]
      ∧ (Analyzer.standard.withTweetRounds 1).terms "a@b"
        ≠ Analyzer.standard.terms "a@b" := by
  have hplain : Analyzer.standard.terms "a@b" = ["a", "b"] := by decide +kernel
  have htweet : (Analyzer.standard.withTweetRounds 1).terms "a@b" = ["ab"] := by
    decide +kernel
  have hcolon : ':' ∉ lowercaseChars "a@b".toList := by decide +kernel
  exact ⟨fun h => hcolon h.colon_mem, hplain, htweet, by rw [hplain, htweet]; decide⟩

/-- Without glue in a text without links the two analyzers agree. -/
theorem tweet_terms_eq_plain {text : String}
    (hlink : ¬ HasLink (lowercaseChars text.toList))
    (hglue : ¬ HasGlue (lowercaseChars text.toList)) (least : Nat) :
    ((Analyzer.standard.withTweetRounds 1).withMinLength least).terms text
      = (Analyzer.standard.withMinLength least).terms text := by
  rw [tweet_terms_eq, words_normalizeChars hlink, joinAcross_wordGaps hglue,
    plain_terms_eq]

/-- In a text without links the terms of a tweet are the plain words, joined across
glue and not otherwise split, dropped or moved, so that they are the plain terms
exactly if there is no glue between words.  Over such texts a vectorizer learns the
same and gives the same features with tweet normalization as without. -/
theorem tweet_terms_of_no_links (text : String) (docs : List String)
    (hlinks : ∀ t ∈ text :: docs, ¬ HasLink (lowercaseChars t.toList)) :
    (∀ least, (Analyzer.standard.withMinLength least).terms text
          = longWords least ((wordGaps (lowercaseChars text.toList)).map (·.1))
        ∧ ((Analyzer.standard.withTweetRounds 1).withMinLength least).terms text
          = longWords least (joinAcross (wordGaps (lowercaseChars text.toList))))
      ∧ (joinAcross (wordGaps (lowercaseChars text.toList))).flatten
        = ((wordGaps (lowercaseChars text.toList)).map (·.1)).flatten
      ∧ (((Analyzer.standard.withTweetRounds 1).withMinLength 1).terms text
          = (Analyzer.standard.withMinLength 1).terms text
        ↔ ¬ HasGlue (lowercaseChars text.toList))
      ∧ ((∀ t ∈ text :: docs, ¬ HasGlue (lowercaseChars t.toList)) →
        ∀ (weighting : Weighting) (least : Nat),
          ((Analyzer.standard.withTweetRounds 1).withMinLength least).terms text
            = (Analyzer.standard.withMinLength least).terms text
          ∧ ((Vectorizer.fresh ⟨weighting, least, true⟩).fit docs).table?
            = ((Vectorizer.fresh ⟨weighting, least, false⟩).fit docs).table?
          ∧ ((Vectorizer.fresh ⟨weighting, least, true⟩).fit docs).transform text
            = ((Vectorizer.fresh ⟨weighting, least, false⟩).fit docs).transform text) := by
  have hlink := hlinks text List.mem_cons_self
  refine ⟨fun least => ⟨?_, ?_⟩, flatten_joinAcross _, ?_, fun hglue weighting least => ?_⟩
  · rw [plain_terms_eq, map_fst_wordGaps]
  · rw [tweet_terms_eq, words_normalizeChars hlink]
  · rw [tweet_terms_eq, plain_terms_eq, words_normalizeChars hlink,
      ← joinAcross_wordGaps_iff]
    refine ⟨fun h => longWords_one_inj ?_ (areWords_words _) h, fun h => by rw [h]⟩
    rw [← words_dropMarks]
    exact areWords_words _
  · have hsame : ∀ t ∈ text :: docs,
        (Vectorizer.fresh ⟨weighting, least, true⟩).terms t
          = (Vectorizer.fresh ⟨weighting, least, false⟩).terms t :=
      fun t ht => tweet_terms_eq_plain (hlinks t ht) (hglue t ht) least
    have hlearnt := Vectorizer.tableOf_congr (v := .fresh ⟨weighting, least, true⟩)
      (w := .fresh ⟨weighting, least, false⟩) rfl
      fun t ht => hsame t (List.mem_cons_of_mem text ht)
    refine ⟨hsame text List.mem_cons_self, congrArg some hlearnt, ?_⟩
    rw [Vectorizer.transform_eq_ok (Vectorizer.isSome_table?_fit _ docs),
      Vectorizer.transform_eq_ok (Vectorizer.isSome_table?_fit _ docs),
      Vectorizer.row, Vectorizer.row, Vectorizer.table_fit, Vectorizer.table_fit, hlearnt]
    exact congrArg _ (congrArg _ (hsame text List.mem_cons_self))

/-- An address becomes one term.  Marks behind a space or at the front join nothing,
and the features stay the same. -/
theorem tweet_terms_of_no_links_marked :
    ((Analyzer.standard.withTweetRounds 1).withMinLength 2).terms "Mail ann@home"
        = ["mail", "annhome"]
      ∧ ((Analyzer.standard.withTweetRounds 1).withMinLength 2).terms
          "@WHO says #COVID19 cases fell!"
        = (Analyzer.standard.withMinLength 2).terms "@WHO says #COVID19 cases fell!"
      ∧ ((Vectorizer.fresh ⟨.smoothed, 2, true⟩).fit ["#stay (@home), ok?"]).transform
          "@WHO says #COVID19 cases fell!"
        = ((Vectorizer.fresh ⟨.smoothed, 2, false⟩).fit ["#stay (@home), ok?"]).transform
          "@WHO says #COVID19 cases fell!" := by
  have hlink : ∀ {t : String}, ':' ∉ lowercaseChars t.toList →
      ¬ HasLink (lowercaseChars t.toList) := fun hcolon h => hcolon h.colon_mem
  have haddress : ∀ t ∈ ["Mail ann@home"], ¬ HasLink (lowercaseChars t.toList) :=
    List.forall_mem_singleton.mpr (hlink (by decide +kernel))
  have htweets : ∀ t ∈ ["@WHO says #COVID19 cases fell!", "#stay (@home), ok?"],
      ¬ HasLink (lowercaseChars t.toList) ∧ ¬ HasGlue (lowercaseChars t.toList) := by
    simp only [List.mem_cons, List.not_mem_nil, or_false, forall_eq_or_imp, forall_eq]
    refine ⟨⟨hlink ?_, (joinAcross_wordGaps_iff _).mp ?_⟩, hlink ?_,
      (joinAcross_wordGaps_iff _).mp ?_⟩ <;> decide +kernel
  obtain ⟨hjoined, -⟩ := tweet_terms_of_no_links "Mail ann@home" [] haddress
  obtain ⟨-, -, -, hsame⟩ := tweet_terms_of_no_links "@WHO says #COVID19 cases fell!"
    ["#stay (@home), ok?"] fun t ht => (htweets t ht).1
  obtain ⟨hterms, -, htransform⟩ := hsame (fun t ht => (htweets t ht).2) .smoothed 2
  exact ⟨(hjoined 2).2.trans (by decide +kernel), hterms, htransform⟩

end Credence.Analysis.Tweet
