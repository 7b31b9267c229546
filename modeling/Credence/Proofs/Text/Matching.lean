/-
What the search for words finds: the greedy match between two word boundaries is
the whole word ahead, so the matches of a text are its words.
-/
import Credence.Proofs.Text.Words
import Credence.Text.Pattern.Reader

namespace Credence.Text

open Pattern

/-- One word character or more, between two word boundaries. -/
def wordPattern : Pattern :=
  .seq (.boundary false) (.seq (.oneOrMore (.single isWord)) (.boundary false))

theorem single_ends_gap {c : Cursor} (h : c.ahead.head?.any isWord = false)
    (limit : Nat) : (single isWord).ends limit c = [] := by
  obtain ⟨before, ahead, offset⟩ := c
  cases ahead with
  | nil => rfl
  | cons x rest => simp_all [ends, Cursor.next?]

theorem single_ends_word {x : Char} (hx : isWord x = true) (limit : Nat)
    (before : Option Char) (rest : List Char) (offset : Nat) :
    (single isWord).ends limit ⟨before, x :: rest, offset⟩
      = [⟨some x, rest, offset + x.utf8Size⟩] := by
  simp [ends, Cursor.next?, hx]

theorem seq_ends (first second : Pattern) (limit : Nat) (c : Cursor) :
    (seq first second).ends limit c
      = (first.ends limit c).flatMap (second.ends limit) := rfl

theorem many_ends (body : Pattern) (greedy : Bool) (limit : Nat) (c : Cursor) :
    (many body greedy).ends limit c
      = repeatEnds (body.ends limit) greedy limit c [] := rfl

/-- A boundary passes nothing. -/
theorem boundary_ends (limit : Nat) (c : Cursor) :
    (boundary false).ends limit c = if c.atBoundary then [c] else [] := by
  simp [ends]

/-- Of the places that the greedy repetition tries inside a word, the end of the
word is the only one at a boundary, and it is the first one tried. -/
theorem repeatEnds_boundary (limit : Nat) {rest : List Char} (word : List Char)
    {x : Char} (h : WholeWord (x :: word) rest) {fuel : Nat}
    (hfuel : word.length ≤ fuel) (offset : Nat) (others : List Cursor) :
    (repeatEnds ((single isWord).ends limit) true fuel
        ⟨some x, word ++ rest, offset⟩ others).flatMap ((boundary false).ends limit)
      = ⟨(x :: word).getLast?, rest, offset + String.utf8Len word⟩
        :: others.flatMap ((boundary false).ends limit) := by
  have hx : isWord x = true := h.isWord_of_mem x (by simp)
  induction word generalizing x fuel offset others with
  | nil =>
    have hboundary : Cursor.atBoundary ⟨some x, rest, offset⟩ = true := by
      simp [Cursor.atBoundary, hx, h.ends]
    cases fuel with
    | zero => simp [repeatEnds, boundary_ends, hboundary]
    | succ fuel =>
      have hstep : (single isWord).ends limit ⟨some x, rest, offset⟩ = [] :=
        single_ends_gap h.ends limit
      simp [repeatEnds, hstep, boundary_ends, hboundary]
  | cons y word ih =>
    obtain ⟨fuel, rfl⟩ : ∃ n, fuel = n + 1 :=
      Nat.exists_eq_add_one.mpr (by simp only [List.length_cons] at hfuel; omega)
    have hy : isWord y = true := h.isWord_of_mem y (by simp)
    have hlater : WholeWord (y :: word) rest :=
      ⟨by simp, fun c hc => h.isWord_of_mem c (List.mem_cons_of_mem _ hc), h.ends⟩
    have hinside : Cursor.atBoundary ⟨some x, y :: (word ++ rest), offset⟩ = false := by
      simp [Cursor.atBoundary, hx, hy]
    have hround : offset + y.utf8Size ≠ offset := by
      have := y.utf8Size_pos
      omega
    simp only [List.cons_append, repeatEnds, single_ends_word hy, ↓reduceIte]
    rw [List.filter_cons_of_pos (by simpa using hround), List.filter_nil,
      List.foldr_cons, List.foldr_nil,
      ih hlater (by simpa using hfuel) _ _ hy, List.flatMap_cons, boundary_ends, hinside]
    simp only [Bool.false_eq_true, ↓reduceIte, List.nil_append, String.utf8Len_cons,
      List.getLast?_cons_cons, Nat.add_assoc, Nat.add_comm y.utf8Size]

/-- In front of a whole word the match goes to the end of the word. -/
theorem wordPattern_ends_word {word rest : List Char} (h : WholeWord word rest)
    {limit : Nat} (hlimit : word.length ≤ limit) {before : Option Char}
    (hbefore : before.any isWord = false) (offset : Nat) :
    wordPattern.ends limit ⟨before, word ++ rest, offset⟩
      = [⟨word.getLast?, rest, offset + String.utf8Len word⟩] := by
  obtain ⟨x, word, hx, rfl⟩ := h.exists_cons
  have hboundary :
      Cursor.atBoundary ⟨before, x :: (word ++ rest), offset⟩ = true := by
    simp [Cursor.atBoundary, hx, hbefore]
  have hlength : word.length ≤ limit := by
    simp only [List.length_cons] at hlimit
    omega
  calc wordPattern.ends limit ⟨before, (x :: word) ++ rest, offset⟩
      = (repeatEnds ((single isWord).ends limit) true limit
          ⟨some x, word ++ rest, offset + x.utf8Size⟩ []).flatMap
            ((boundary false).ends limit) := by
        rw [wordPattern, oneOrMore, seq_ends, boundary_ends, List.cons_append,
          if_pos hboundary]
        simp only [seq_ends, many_ends, single_ends_word hx, List.flatMap_cons,
          List.flatMap_nil, List.append_nil]
    _ = [⟨(x :: word).getLast?, rest, offset + x.utf8Size + String.utf8Len word⟩] :=
        repeatEnds_boundary limit word h hlength _ _
    _ = _ := by
        simp only [String.utf8Len_cons, Nat.add_assoc, Nat.add_comm x.utf8Size]

/-- Elsewhere there is no match, not even an empty one. -/
theorem wordPattern_ends_gap {c : Cursor} (h : c.ahead.head?.any isWord = false)
    (limit : Nat) : wordPattern.ends limit c = [] := by
  rw [wordPattern, seq_ends, boundary_ends, oneOrMore]
  split
  · simp [seq_ends, single_ends_gap h]
  · rfl

/-- The characters between the two ends of a word are the word. -/
theorem charsUpTo_append (word rest : List Char) (offset : Nat) :
    charsUpTo (offset + String.utf8Len word) offset (word ++ rest) = word := by
  induction word generalizing offset with
  | nil => cases rest <;> simp [charsUpTo]
  | cons c word ih =>
    have hlater := ih (offset + c.utf8Size)
    have hpos := c.utf8Size_pos
    have hin : offset < offset + String.utf8Len (c :: word) := by
      simp only [String.utf8Len_cons]
      omega
    rw [Nat.add_assoc, Nat.add_comm c.utf8Size] at hlater
    rw [List.cons_append, charsUpTo, if_pos hin, String.utf8Len_cons, hlater]

/-- Where nothing matches the search goes on behind the next character. -/
theorem spansFrom_of_ends_nil {p : Pattern} {limit : Nat} {c : Cursor}
    (h : p.ends limit c = []) (fuel : Nat) (behindMatch : Bool) :
    p.spansFrom limit (fuel + 1) c behindMatch
      = (c.next?.map fun x => p.spansFrom limit fuel x.2 false).getD [] := by
  cases hc : c.next? <;> simp [spansFrom, h, hc]

/-- Behind a match that passes something the search goes on at its end. -/
theorem spansFrom_of_ends_cons {p : Pattern} {limit : Nat} {c stop : Cursor}
    {others : List Cursor} (h : p.ends limit c = stop :: others)
    (hmoved : stop.offset ≠ c.offset) (fuel : Nat) (behindMatch : Bool) :
    p.spansFrom limit (fuel + 1) c behindMatch
      = c.span stop :: p.spansFrom limit fuel stop true := by
  have hbest : Option.filter (fun s => s.offset != c.offset) (some stop)
      = some stop := by
    simp [Option.filter, hmoved]
  simp only [spansFrom, h, List.head?_cons, hbest]

/-- From a place that is not inside a word on, the matches of the pattern are the
words ahead. -/
theorem spansFrom_eq_wordSpans {p : Pattern} {limit : Nat}
    (hp : ∀ c, p.ends limit c = wordPattern.ends limit c) (s : List Char)
    {fuel : Nat} (hlimit : s.length ≤ limit) (hfuel : s.length < fuel)
    {before : Option Char}
    (hplace : before.any isWord = true → s.head?.any isWord = false)
    (offset : Nat) (behindMatch : Bool) :
    p.spansFrom limit fuel ⟨before, s, offset⟩ behindMatch = wordSpans offset s := by
  induction s using wordInduction generalizing fuel before offset behindMatch with
  | nil =>
    obtain ⟨fuel, rfl⟩ := Nat.exists_eq_add_one.mpr hfuel
    have hnone : p.ends limit ⟨before, [], offset⟩ = [] := by
      rw [hp, wordPattern_ends_gap rfl]
    simp [spansFrom_of_ends_nil hnone, Cursor.next?]
  | gap c rest hc ih =>
    obtain ⟨fuel, rfl⟩ : ∃ n, fuel = n + 1 := Nat.exists_eq_add_one.mpr (by omega)
    simp only [List.length_cons] at hlimit hfuel
    have hnone : p.ends limit ⟨before, c :: rest, offset⟩ = [] := by
      rw [hp, wordPattern_ends_gap (by simpa using hc)]
    have hbehind : (some c).any isWord = true → rest.head?.any isWord = false := by
      simp [hc]
    rw [spansFrom_of_ends_nil hnone, wordSpans_gap hc]
    exact ih (by omega) (by omega) hbehind (offset + c.utf8Size) false
  | word word rest h ih =>
    obtain ⟨fuel, rfl⟩ : ∃ n, fuel = n + 1 := Nat.exists_eq_add_one.mpr (by omega)
    simp only [List.length_append] at hlimit hfuel
    have hlength : 0 < word.length := List.length_pos_iff.mpr h.nonempty
    have houtside : before.any isWord = false := by
      obtain ⟨x, word, hx, rfl⟩ := h.exists_cons
      simpa [hx] using hplace
    have hstop : p.ends limit ⟨before, word ++ rest, offset⟩
        = [⟨word.getLast?, rest, offset + String.utf8Len word⟩] := by
      rw [hp, wordPattern_ends_word h (by omega) houtside]
    have hmoved : offset + String.utf8Len word ≠ offset := by
      simpa using h.nonempty
    rw [spansFrom_of_ends_cons hstop hmoved, wordSpans_append h,
      ih (by omega) (by omega) (fun _ => h.ends)]
    simp only [Cursor.span, Cursor.upTo, charsUpTo_append]

/-- The matches of a text are its words, for every pattern that matches as the
pattern of words does. -/
theorem spans_eq_wordSpans {p : Pattern}
    (hp : ∀ limit c, p.ends limit c = wordPattern.ends limit c) (s : String) :
    p.spans s = wordSpans 0 s.toList :=
  spansFrom_eq_wordSpans (hp _) s.toList le_rfl (Nat.lt_succ_self _)
    (by simp) 0 false

/-- What the written form of the pattern of words reads as. -/
theorem read?_word :
    Pattern.read? "\\b\\w+\\b"
      = some (.seq (.boundary false) (.seq (.oneOrMore (.single isWord))
          (.seq (.boundary false) .empty))) := by
  have hchars : "\\b\\w+\\b".toList = ['\\', 'b', '\\', 'w', '+', '\\', 'b'] := rfl
  have hbranches : readBranches? 24 false ['\\', 'b', '\\', 'w', '+', '\\', 'b']
      = some (.seq (.boundary false) (.seq (.oneOrMore (.single isWord))
          (.seq (.boundary false) .empty)), []) := rfl
  rw [Pattern.read?, hchars]
  simp only [List.length_cons, List.length_nil, Nat.zero_add, Nat.reduceAdd,
    Nat.reduceMul, hbranches]

/-- The pattern that is read matches as the pattern of words does. -/
theorem read_word_ends (limit : Nat) (c : Cursor) :
    (seq (.boundary false) (.seq (.oneOrMore (.single isWord))
        (.seq (.boundary false) .empty))).ends limit c
      = wordPattern.ends limit c := by
  simp [wordPattern, ends]

end Credence.Text
