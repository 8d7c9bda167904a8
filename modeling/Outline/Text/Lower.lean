/-
Lower-casing of text, by the full rules of the character standard.

Almost every character has a lower-case form that depends on nothing
else. Two do not fit: a capital I with a dot becomes two characters,
and a capital sigma is written in its final form at the end of a word,
that is, when a character with a case comes before it and none after
it, characters without influence on case being passed over.
-/
import Outline.Text.LowerTable
import Outline.Text.Ranges

namespace Outline.Text

/-- The lower-case form of a character that has one of its own. -/
def simpleLower (c : Char) : Char :=
  if c.toNat < 0x80 then c.toLower
  else
    match lowerRuns.find? (fun (first, last, step, _) =>
        first ≤ c.toNat && c.toNat ≤ last && (c.toNat - first) % step == 0) with
    | some (_, _, _, distance) => Char.ofNat ((c.toNat : Int) + distance).toNat
    | none => c

/-- Whether the nearest character that matters for case has one. -/
def nextIsCased : List Char → Bool
  | [] => false
  | c :: rest =>
    if inRanges caseIgnorableRanges c then nextIsCased rest
    else inRanges casedRanges c || c == 'Σ'

/-- Lower-cases the characters after `before`, which is given in
reverse. -/
def lowerAfter (before : List Char) : List Char → List Char
  | [] => []
  | c :: rest =>
    let here : List Char :=
      if c == 'Σ' then
        [if nextIsCased before && !nextIsCased rest then 'ς' else 'σ']
      else if c.toNat == 0x130 then ['i', Char.ofNat 0x307]
      else [simpleLower c]
    here ++ lowerAfter (c :: before) rest

/-- The lower-case form of a text. -/
def lower (s : String) : String :=
  String.ofList (lowerAfter [] s.toList)

end Outline.Text
