/-
Analysis is settled after one pass.  The terms of a text, written with one space
between them, are a text that every step of the same analyzer leaves alone, and so
they have the same terms again.
-/
import Credence.Proofs.Analysis.Tokens
import Credence.Proofs.Analysis.Tweet
import Credence.Proofs.Vectorizer

namespace Credence.Analysis

open Text

namespace Analyzer

variable {a : Analyzer}

/-- The terms of a text as a text of their own, with one space between them. -/
def written (a : Analyzer) (text : String) : String :=
  " ".intercalate (a.terms text)

/-- The words that are kept of a text, as characters. -/
def keptWords (a : Analyzer) (text : String) : List (List Char) :=
  (words (a.prepare text).toList).filter fun w => decide (a.minLength ≤ w.length)

theorem terms_eq_keptWords
    (ha : ∀ limit c, a.tokenizer.pattern.ends limit c = wordPattern.ends limit c)
    (text : String) : a.terms text = (a.keptWords text).map String.ofList := by
  rw [terms_eq ha, List.filter_map, keptWords]
  simp only [Function.comp_def, String.toList_ofList]

theorem written_eq_spaced
    (ha : ∀ limit c, a.tokenizer.pattern.ends limit c = wordPattern.ends limit c)
    (text : String) : a.written text = String.ofList (spaced (a.keptWords text)) := by
  rw [written, terms_eq_keptWords ha, ← String.toList_inj, String.toList_intercalate]
  simp [spaced, Function.comp_def]

theorem areWords_keptWords (a : Analyzer) (text : String) :
    AreWords (a.keptWords text) := by
  intro w hw
  exact areWords_words _ w (List.mem_of_mem_filter hw)

/-- Whatever is kept is in lower case. -/
theorem isLower_of_mem_keptWords {text : String} {w : List Char}
    (hw : w ∈ a.keptWords text) : ∀ c ∈ w, IsLower c := by
  intro c hc
  have hmem := mem_of_mem_words hc (List.mem_of_mem_filter hw)
  rw [prepare, lowercase, String.toList_ofList] at hmem
  exact isLower_of_mem_lowercaseChars hmem

/-- The tokenizer gets to see words in lower case as they are written. -/
theorem prepare_spaced (a : Analyzer) {ws : List (List Char)} (hwords : AreWords ws)
    (hlower : ∀ w ∈ ws, ∀ c ∈ w, IsLower c) :
    a.prepare (String.ofList (spaced ws)) = String.ofList (spaced ws) := by
  have hnormal : Tweet.normalize (String.ofList (spaced ws)) =
      String.ofList (spaced ws) := by
    rw [Tweet.normalize, String.toList_ofList,
      Tweet.normalizeChars_spaced hwords hlower]
  rw [prepare, Tweet.filterRounds_of_normalize hnormal, lowercase,
    String.toList_ofList, Tweet.lowercaseChars_spaced hlower]

/-- Of its own terms an analyzer of words keeps all. -/
theorem keptWords_written
    (ha : ∀ limit c, a.tokenizer.pattern.ends limit c = wordPattern.ends limit c)
    (text : String) : a.keptWords (a.written text) = a.keptWords text := by
  have hwords := a.areWords_keptWords text
  have hlong : ∀ w ∈ a.keptWords text, decide (a.minLength ≤ w.length) = true := by
    intro w hw
    exact (List.mem_filter.mp hw).2
  rw [keptWords, written_eq_spaced ha,
    prepare_spaced a hwords fun _ hw => isLower_of_mem_keptWords hw,
    String.toList_ofList, words_spaced hwords, List.filter_eq_self.mpr hlong]

/-- The terms of an analyzer of words are the terms of the text they make. -/
theorem terms_of_written
    (ha : ∀ limit c, a.tokenizer.pattern.ends limit c = wordPattern.ends limit c)
    (text : String) : a.terms (a.written text) = a.terms text := by
  rw [terms_eq_keptWords ha, keptWords_written ha, terms_eq_keptWords ha]

end Analyzer

/-- With any number of tweet rounds and any least length, the terms of a text with one
space between them have the same terms.  So have the words of a text, and a fitted
vectorizer that finds terms in this way gives both texts the same features. -/
theorem terms_written (rounds least : Nat) (text : String) :
    let a := (Analyzer.standard.withTweetRounds rounds).withMinLength least
    a.terms (a.written text) = a.terms text
      ∧ tokenize (" ".intercalate (tokenize text)) = tokenize text
      ∧ ∀ v : Vectorizer, v.analyzer = a → v.table?.isSome →
        ∃ x, v.transform text = .ok x ∧ v.transform (a.written text) = .ok x := by
  intro a
  refine ⟨Analyzer.terms_of_written Tokenizer.words_ends text,
    Analyzer.terms_of_written Tokenizer.words_ends text, ?_⟩
  intro v hanalyzer hfitted
  have hsame : v.terms (a.written text) = v.terms text := by
    rw [Vectorizer.terms, Vectorizer.terms, hanalyzer]
    exact Analyzer.terms_of_written Tokenizer.words_ends text
  refine ⟨v.row text, Vectorizer.transform_eq_ok hfitted text, ?_⟩
  rw [Vectorizer.transform_eq_ok hfitted, Vectorizer.row, Vectorizer.row, hsame]

/-- Small letters of two characters and at the end of a word, a link, marks, and words
that are too short. -/
theorem terms_written_marked :
    ∃ a v, a = (Analyzer.standard.withTweetRounds 2).withMinLength 2
      ∧ v = (Vectorizer.withAnalyzer .standard a).fit ["some news", "more"]
      ∧ v.analyzer = a ∧ v.table?.isSome
      ∧ a.terms "ΟΔΟΣ İzmir's @News: https://t.co/A1 a #b_c"
        = ["οδος", "i\u0307zmir", "news", "url", "b_c"]
      ∧ a.terms "οδος i\u0307zmir news url b_c"
        = a.terms "ΟΔΟΣ İzmir's @News: https://t.co/A1 a #b_c"
      ∧ ∃ x, v.transform "ΟΔΟΣ İzmir's @News: https://t.co/A1 a #b_c" = .ok x
        ∧ v.transform "οδος i\u0307zmir news url b_c" = .ok x := by
  obtain ⟨hsame, -, hrows⟩ :=
    terms_written 2 2 "ΟΔΟΣ İzmir's @News: https://t.co/A1 a #b_c"
  have hterms : ((Analyzer.standard.withTweetRounds 2).withMinLength 2).terms
      "ΟΔΟΣ İzmir's @News: https://t.co/A1 a #b_c"
        = ["οδος", "i\u0307zmir", "news", "url", "b_c"] := by decide +kernel
  have hwritten : ((Analyzer.standard.withTweetRounds 2).withMinLength 2).written
      "ΟΔΟΣ İzmir's @News: https://t.co/A1 a #b_c"
        = "οδος i\u0307zmir news url b_c" := by
    rw [Analyzer.written, hterms]
    decide +kernel
  rw [hwritten] at hsame hrows
  exact ⟨_, _, rfl, rfl, rfl, rfl, hterms, hsame, hrows _ rfl rfl⟩

end Credence.Analysis
