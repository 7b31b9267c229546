/-
What a text is cut into: its maximal runs of word characters, in order, each at
the bytes where it stands, and none of the long enough ones left out.
-/
import Credence.Proofs.Text.Matching
import Credence.Analysis.Analyzer

namespace Credence.Analysis

open Text

/-- A stretch is a maximal run of word characters of a text: the text is cut
between characters, at the given bytes, into what stands before, the run, and
what stands behind, and no word character is its neighbour. -/
def IsWordRun (u : String) (s : Span) : Prop :=
  ∃ before after : String, u = before ++ s.text ++ after
    ∧ s.start = before.utf8ByteSize ∧ s.stop = (before ++ s.text).utf8ByteSize
    ∧ s.text ≠ "" ∧ (∀ c ∈ s.text.toList, isWord c = true)
    ∧ before.toList.getLast?.any isWord = false
    ∧ after.toList.head?.any isWord = false

theorem isWordRun_iff {u : String} {s : Span} :
    IsWordRun u s ↔ IsRunAt 0 u.toList s := by
  constructor
  · rintro ⟨before, after, rfl, hstart, hstop, hne, hword, hbefore, hafter⟩
    refine ⟨before.toList, s.text.toList, after.toList, by simp,
      ⟨by simpa using hne, hword, hafter⟩, hbefore, ?_⟩
    rw [String.utf8ByteSize_append, ← hstart] at hstop
    simp [String.utf8Len_toList, ← hstart, ← hstop]
  · rintro ⟨before, word, after, hcut, hword, hbefore, rfl⟩
    refine ⟨String.ofList before, String.ofList after, ?_, ?_, ?_, ?_, ?_, ?_, ?_⟩
    · rw [← String.toList_inj, hcut]
      simp
    · simp [String.utf8ByteSize_ofList]
    · simp [String.utf8ByteSize_ofList]
    · simpa using hword.nonempty
    · simpa using hword.isWord_of_mem
    · simpa using hbefore
    · simpa using hword.ends

/-- The stretch of a token, without its place in the sequence. -/
def Token.span (t : Token) : Span := ⟨t.text, t.start, t.stop⟩

/-- Tokens are the words of a text with at least `least` characters. -/
structure AreWordRuns (u : String) (least : Nat) (tokens : List Token) : Prop where
  /-- They are numbered in order. -/
  positions : ∀ (i : Nat) (t : Token), tokens[i]? = some t → t.position = i
  /-- They are the maximal runs of that length, and all of them. -/
  spans : ∀ s, s ∈ tokens.map Token.span
    ↔ IsWordRun u s ∧ least ≤ s.text.toList.length
  /-- They stand in the order of the text and do not touch. -/
  apart : tokens.Pairwise fun a b => a.stop < b.start
  /-- If no length is asked for, every word character is in exactly one. -/
  covering : least ≤ 1 → ∀ (before after : String) (c : Char), isWord c = true →
    u = before ++ String.singleton c ++ after →
    ∃! t, t ∈ tokens ∧ t.start ≤ before.utf8ByteSize ∧ before.utf8ByteSize < t.stop

/-- Of tokens that do not touch at most one holds a byte. -/
theorem eq_of_apart {tokens : List Token}
    (hapart : tokens.Pairwise fun a b => a.stop < b.start) {a b : Token}
    (ha : a ∈ tokens) (hb : b ∈ tokens) {byte : Nat}
    (hina : a.start ≤ byte ∧ byte < a.stop) (hinb : b.start ≤ byte ∧ byte < b.stop) :
    a = b := by
  obtain ⟨i, hi, rfl⟩ := List.getElem_of_mem ha
  obtain ⟨j, hj, rfl⟩ := List.getElem_of_mem hb
  have hpairs := List.pairwise_iff_getElem.mp hapart
  rcases Nat.lt_trichotomy i j with hlt | rfl | hlt
  · have := hpairs i j hi hj hlt
    omega
  · rfl
  · have := hpairs j i hj hi hlt
    omega

/-- Numbered tokens whose stretches are the long enough words are as they should
be. -/
theorem AreWordRuns.ofSpans {u : String} {least : Nat} {tokens : List Token}
    (positions : ∀ (i : Nat) (t : Token), tokens[i]? = some t → t.position = i)
    (hspans : tokens.map Token.span = (wordSpans 0 u.toList).filter
      fun s => decide (least ≤ s.text.toList.length)) :
    AreWordRuns u least tokens := by
  have spans : ∀ s, s ∈ tokens.map Token.span
      ↔ IsWordRun u s ∧ least ≤ s.text.toList.length := by
    intro s
    rw [hspans, List.mem_filter, mem_wordSpans_iff, isWordRun_iff,
      decide_eq_true_eq]
  have apart : tokens.Pairwise fun a b => a.stop < b.start := by
    have hsorted := (wordSpans_apart u.toList 0).filter
      fun s => decide (least ≤ s.text.toList.length)
    rw [← hspans, List.pairwise_map] at hsorted
    exact hsorted
  refine ⟨positions, spans, apart, fun hleast before after c hc hcut => ?_⟩
  obtain ⟨s, hrun, hstart, hstop⟩ :=
    exists_isRunAt_around 0 before.toList after.toList hc
  have hu : u.toList = before.toList ++ c :: after.toList := by simp [hcut]
  rw [← hu, ← isWordRun_iff] at hrun
  have hlong : least ≤ s.text.toList.length := by
    obtain ⟨-, -, -, -, -, hne, -⟩ := hrun
    have : 0 < s.text.toList.length := List.length_pos_iff.mpr (by simpa using hne)
    omega
  obtain ⟨t, ht, rfl⟩ := List.mem_map.mp ((spans s).mpr ⟨hrun, hlong⟩)
  rw [String.utf8Len_toList, Nat.zero_add] at hstart hstop
  refine ⟨t, ⟨ht, hstart, hstop⟩, fun other ⟨hother, hin⟩ => ?_⟩
  exact eq_of_apart apart hother ht hin ⟨hstart, hstop⟩

/-- The stretches of the tokens of a tokenizer are its matches. -/
theorem Tokenizer.map_span_tokens (t : Tokenizer) (text : String) :
    (t.tokens text).map Token.span = t.pattern.spans text := by
  apply List.ext_getElem <;> simp [tokens, Token.span, Token.ofSpan]

theorem Tokenizer.position_tokens (t : Tokenizer) (text : String) (i : Nat)
    (x : Token) (h : (t.tokens text)[i]? = some x) : x.position = i := by
  obtain ⟨s, -, rfl⟩ : ∃ s, (t.pattern.spans text)[i]? = some s
      ∧ Token.ofSpan i s = x := by simpa [tokens] using h
  rfl

theorem map_span_renumber (ts : List Token) :
    (renumber ts).map Token.span = ts.map Token.span := by
  apply List.ext_getElem <;> simp [renumber, Token.span]

theorem position_renumber (ts : List Token) (i : Nat) (x : Token)
    (h : (renumber ts)[i]? = some x) : x.position = i := by
  obtain ⟨t, -, rfl⟩ : ∃ t, ts[i]? = some t ∧ { t with position := i } = x := by
    simpa [renumber] using h
  rfl

/-- The stretches that an analyzer keeps are the matches of its tokenizer that are
long enough. -/
theorem Analyzer.map_span_tokens (a : Analyzer) (text : String) :
    (a.tokens text).map Token.span = (a.tokenizer.pattern.spans (a.prepare text)).filter
      fun s => decide (a.minLength ≤ s.text.toList.length) := by
  rw [tokens, map_span_renumber, ← Tokenizer.map_span_tokens, List.filter_map]
  rfl

/-- A tokenizer of words cuts a text into its words. -/
theorem Tokenizer.areWordRuns_tokens {t : Tokenizer}
    (ht : ∀ limit c, t.pattern.ends limit c = wordPattern.ends limit c)
    (text : String) : AreWordRuns text 1 (t.tokens text) := by
  refine .ofSpans (t.position_tokens text) ?_
  rw [t.map_span_tokens, spans_eq_wordSpans ht, eq_comm, List.filter_eq_self]
  intro s hs
  obtain ⟨-, -, -, -, -, hne, -⟩ := isWordRun_iff.mpr (mem_wordSpans_iff.mp hs)
  have : 0 < s.text.toList.length := List.length_pos_iff.mpr (by simpa using hne)
  exact decide_eq_true this

/-- An analyzer of words cuts the prepared text into its long enough words. -/
theorem Analyzer.areWordRuns_tokens {a : Analyzer}
    (ha : ∀ limit c, a.tokenizer.pattern.ends limit c = wordPattern.ends limit c)
    (text : String) : AreWordRuns (a.prepare text) a.minLength (a.tokens text) := by
  refine .ofSpans (position_renumber _) ?_
  rw [a.map_span_tokens, spans_eq_wordSpans ha]

/-- The terms of an analyzer of words are the long enough words of the prepared
text. -/
theorem Analyzer.terms_eq {a : Analyzer}
    (ha : ∀ limit c, a.tokenizer.pattern.ends limit c = wordPattern.ends limit c)
    (text : String) :
    a.terms text = ((Text.words (a.prepare text).toList).map String.ofList).filter
      fun w => decide (a.minLength ≤ w.toList.length) := by
  have htexts : a.terms text = ((a.tokens text).map Token.span).map (·.text) := by
    rw [terms, List.map_map]
    rfl
  rw [htexts, a.map_span_tokens, spans_eq_wordSpans ha, ← texts_wordSpans _ 0,
    List.filter_map]
  rfl

theorem Tokenizer.words_ends (limit : Nat) (c : Cursor) :
    Tokenizer.words.pattern.ends limit c = wordPattern.ends limit c := rfl

/-- Reading the written pattern of words gives a tokenizer of words. -/
theorem Tokenizer.ofSource_words :
    ∃ t, Tokenizer.ofSource Tokenizer.words.source = .ok t
      ∧ ∀ text, t.tokens text = Tokenizer.words.tokens text := by
  obtain ⟨p, hread, hends⟩ : ∃ p, Pattern.read? "\\b\\w+\\b" = some p
      ∧ ∀ limit c, p.ends limit c = wordPattern.ends limit c :=
    ⟨_, read?_word, read_word_ends⟩
  refine ⟨⟨"\\b\\w+\\b", p⟩, ?_, fun text => ?_⟩
  · show Tokenizer.ofSource "\\b\\w+\\b" = _
    simp only [Tokenizer.ofSource, hread]
  · rw [Tokenizer.tokens, Tokenizer.tokens, spans_eq_wordSpans hends,
      spans_eq_wordSpans words_ends]

/-- Alone, the standard analyzer only puts a text in lower case. -/
theorem Analyzer.prepare_standard (least : Nat) (text : String) :
    (Analyzer.standard.withMinLength least).prepare text = lowercase text := by
  simp only [prepare, withMinLength, standard, filterRounds]

/-- The tokens of a text are the maximal runs of word characters of its lower-case
form that are long enough; all of them give the words of the text.  Without lower
case a tokenizer of words does the same, also when its pattern is read. -/
theorem tokens_are_word_runs (least : Nat) (text : String) :
    AreWordRuns (lowercase text) (max least 1)
        ((Analyzer.standard.withMinLength least).tokens text)
      ∧ tokenize text = ((Analyzer.standard.withMinLength 1).tokens text).map (·.text)
      ∧ AreWordRuns text 1 (Tokenizer.words.tokens text)
      ∧ ∃ t, Tokenizer.ofSource Tokenizer.words.source = .ok t
        ∧ t.tokens text = Tokenizer.words.tokens text := by
  have hone : Analyzer.standard.withMinLength 1 = Analyzer.standard := rfl
  obtain ⟨t, hread, htokens⟩ := Tokenizer.ofSource_words
  refine ⟨?_, ?_, Tokenizer.areWordRuns_tokens Tokenizer.words_ends text,
    t, hread, htokens text⟩
  · rw [← Analyzer.prepare_standard least]
    exact Analyzer.areWordRuns_tokens Tokenizer.words_ends text
  · rw [hone, tokenize, Analyzer.terms]

end Credence.Analysis
