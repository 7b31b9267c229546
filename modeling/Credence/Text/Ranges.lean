/-
Membership of code points in sorted tables of closed ranges, by halving.
-/
namespace Credence.Text

/-- Look for `code` among the ranges `low, …, high - 1` of an ascending table.
Every step halves the span, so the table's size is fuel enough. -/
def inRangesBetween (table : Array (Nat × Nat)) (code : Nat) :
    Nat → Nat → Nat → Bool
  | 0, _, _ => false
  | fuel + 1, low, high =>
      if low < high then
        let middle := (low + high) / 2
        match table[middle]? with
        | none => false
        | some (first, last) =>
            if code < first then inRangesBetween table code fuel low middle
            else if last < code then
              inRangesBetween table code fuel (middle + 1) high
            else true
      else false

/-- Whether one of the closed ranges of an ascending table holds `code`. -/
def inRanges (table : Array (Nat × Nat)) (code : Nat) : Bool :=
  inRangesBetween table code table.size 0 table.size

end Credence.Text
