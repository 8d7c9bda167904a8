/-
Sets of characters given by ranges of code points.

The classes of characters that decide how text is quoted, lower-cased
and laid out are data of a standard. Each is an array of ranges in
ascending order, searched by halving.
-/
namespace Outline.Text

/-- Whether `n` lies in one of the ascending ranges between positions
`low` and `high`; `fuel` bounds the number of halvings. -/
def withinRanges (table : Array (Nat × Nat)) (n : Nat) :
    (fuel low high : Nat) → Bool
  | 0, _, _ => false
  | fuel + 1, low, high =>
    if low < high then
      let middle := (low + high) / 2
      match table[middle]? with
      | none => false
      | some (first, last) =>
        if n < first then withinRanges table n fuel low middle
        else if last < n then withinRanges table n fuel (middle + 1) high
        else true
    else false

/-- Whether a character belongs to a set of ascending ranges. -/
def inRanges (table : Array (Nat × Nat)) (c : Char) : Bool :=
  withinRanges table c.toNat (table.size + 1) 0 table.size

end Outline.Text
