/-
How much two texts have in common.

The longest common stretch counts, then those of the parts before it and
of the parts after it. Two texts are close if at least three fifths of
their characters are in common.
-/
namespace Outline.Text

/-- The length of the common beginning of two texts. -/
def commonStart : List Char → List Char → Nat
  | a :: as, b :: bs => if a = b then commonStart as bs + 1 else 0
  | _, _ => 0

/-- A stretch that two texts have in common: where it starts in each,
and its length. -/
structure Stretch where
  first : Nat
  second : Nat
  length : Nat
deriving DecidableEq, Repr, Inhabited

/-- The longest common stretch; of equally long ones the earliest in the
first text, then in the second. -/
def longestStretch (a b : List Char) : Stretch :=
  let starts := (List.range a.length).flatMap fun i =>
    (List.range b.length).map fun j => (i, j)
  starts.foldl
    (fun best (i, j) =>
      let n := commonStart (a.drop i) (b.drop j)
      if best.length < n then ⟨i, j, n⟩ else best)
    ⟨0, 0, 0⟩

/-- The number of characters in common. Every stretch shortens the
texts, so their length is fuel enough. -/
def inCommon : Nat → List Char → List Char → Nat
  | 0, _, _ => 0
  | fuel + 1, a, b =>
    let s := longestStretch a b
    if s.length = 0 then 0
    else
      s.length + inCommon fuel (a.take s.first) (b.take s.second) +
        inCommon fuel (a.drop (s.first + s.length))
          (b.drop (s.second + s.length))

/-- Twice the characters in common, and all characters. -/
def likeness (candidate word : String) : Nat × Nat :=
  let a := candidate.toList
  let b := word.toList
  (2 * inCommon (a.length + 1) a b, a.length + b.length)

/-- Whether a candidate is close to a word. -/
def isClose (candidate word : String) : Bool :=
  let (common, all) := likeness candidate word
  3 * all ≤ 5 * common

/-- The most candidates that are suggested. -/
def maxSuggestions : Nat := 3

/-- The candidates that come closest to a word, by name. -/
def suggestions (word : String) (candidates : List String) :
    List String :=
  let closer (a b : String) : Bool :=
    let (ca, na) := likeness a word
    let (cb, nb) := likeness b word
    if ca * nb = cb * na then b ≤ a else cb * na < ca * nb
  let close := (candidates.filter (isClose · word)).mergeSort closer
  (close.take maxSuggestions).mergeSort (· ≤ ·)

end Outline.Text
