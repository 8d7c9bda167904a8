/-
Reading numbers from text.

A floating-point text is a sign, digits with an optional point, and an
optional exponent, or one of the names of the special numbers in any
case. An integer text is a sign and digits. Neither allows blanks or
separators here; who allows more takes it off first.
-/
import Outline.Number.Binary64

namespace Outline

/-- Splits off an optional sign; true means negative. -/
def splitSign : List Char → Bool × List Char
  | '-' :: rest => (true, rest)
  | '+' :: rest => (false, rest)
  | cs => (false, cs)

/-- The number of a list of decimal digits that is not empty. -/
def naturalOf? (cs : List Char) : Option Nat :=
  if !cs.isEmpty && cs.all Char.isDigit then
    some (cs.foldl (fun n c => n * 10 + (c.toNat - '0'.toNat)) 0)
  else none

/-- The integer of a text with an optional sign. -/
def integerOf? (cs : List Char) : Option Int :=
  let (negative, digits) := splitSign cs
  (naturalOf? digits).map fun n => if negative then -(n : Int) else n

namespace Binary64

/-- The exponent behind a number, zero if there is none. -/
def exponentOf? : List Char → Option Int
  | [] => some 0
  | c :: rest => if c == 'e' || c == 'E' then integerOf? rest else none

/-- The number of a text without its sign. -/
def magnitudeOf? (negative : Bool) (cs : List Char) : Option Binary64 :=
  let word := String.ofList (cs.map Char.toLower)
  if word == "nan" then some .nan
  else if word == "inf" || word == "infinity" then some (.infinite negative)
  else
    let (whole, rest) := cs.span Char.isDigit
    let (fraction, rest) := match rest with
      | '.' :: more => more.span Char.isDigit
      | rest => ([], rest)
    if whole.isEmpty && fraction.isEmpty then none
    else (exponentOf? rest).map (ofParts negative whole fraction)

/-- The number of a text. -/
def ofText? (s : String) : Option Binary64 :=
  let (negative, rest) := splitSign s.toList
  magnitudeOf? negative rest

end Binary64

end Outline
