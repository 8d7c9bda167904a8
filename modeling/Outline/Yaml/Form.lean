/-
What a plain scalar is by the form of its text.

Truth values and null are words. Integers may be binary, octal,
hexadecimal or in base sixty, and may hold underscores. A number has a
point, and an exponent has a sign. A date is a year, a month and a day;
a time follows it. What has none of these forms is a text.
-/
import Outline.Number.Reading
import Outline.Value.Basic
import Outline.Yaml.Scalar

namespace Outline.Yaml

/-- What a scalar is. -/
inductive Form where
  | null
  | bool
  | int
  | float
  | timestamp
  | text
  | binary
  | merge
  | default
deriving DecidableEq, Repr, Inhabited

-- ================================================================ words

/-- A word in lower case, with a capital, and in capitals. -/
def threeCases (word : String) : List String :=
  let cs := word.toList
  let capital := match cs with
    | c :: rest => c.toUpper :: rest
    | [] => []
  [word, String.ofList capital, String.ofList (cs.map Char.toUpper)]

/-- The words that are truth values. -/
def truthWords : List String :=
  ["yes", "no", "true", "false", "on", "off"].flatMap threeCases

/-- The words that are null. -/
def nullWords : List String := ["", "~"] ++ threeCases "null"

-- ============================================================== numbers

/-- Whether a text is not empty and has only characters of a kind. -/
def allOf (p : Char → Bool) (cs : List Char) : Bool :=
  !cs.isEmpty && cs.all p

/-- A decimal digit or an underscore. -/
def isDigitOrBar (c : Char) : Bool := c.isDigit || c == '_'

/-- Digits and underscores after a first digit. -/
def isDigits (cs : List Char) : Bool :=
  cs.head?.any Char.isDigit && cs.all isDigitOrBar

/-- Whether a text is a sixtieth: one digit, or two below sixty. -/
def isSixtieth : List Char → Bool
  | [a] => a.isDigit
  | [a, b] => '0' ≤ a && a ≤ '5' && b.isDigit
  | _ => false

/-- Whether a text is digits and at least one sixtieth, with colons
between. -/
def isBaseSixty (first : List Char → Bool) (cs : List Char) : Bool :=
  match cs.splitOn ':' with
  | head :: next :: rest => first head && (next :: rest).all isSixtieth
  | _ => false

/-- Digits that do not start with zero. -/
def isDecimal (cs : List Char) : Bool :=
  isDigits cs && cs.head? ≠ some '0'

/-- Whether a text has the form of an integer. -/
def isInteger (cs : List Char) : Bool :=
  match (splitSign cs).2 with
  | ['0'] => true
  | '0' :: 'b' :: rest => allOf (fun c => "01_".toList.contains c) rest
  | '0' :: 'x' :: rest =>
    allOf (fun c => (hexDigit? c).isSome || c == '_') rest
  | '0' :: rest => allOf (fun c => ('0' ≤ c && c ≤ '7') || c == '_') rest
  | digits => isDecimal digits || isBaseSixty isDecimal digits

/-- Whether a text is an exponent, or nothing. -/
def isExponent : List Char → Bool
  | [] => true
  | e :: s :: digits =>
    (e == 'e' || e == 'E') && (s == '+' || s == '-') &&
      allOf Char.isDigit digits
  | _ => false

/-- Whether a text has the form of a number. -/
def isNumber (cs : List Char) : Bool :=
  let unsigned := (splitSign cs).2
  let (whole, rest) := unsigned.span (· != '.')
  match rest with
  | '.' :: more =>
    let (fraction, tail) := more.span isDigitOrBar
    if whole.isEmpty then
      ((threeCases "inf").map String.toList).contains more ||
        (["nan", "NaN", "NAN"].map String.toList).contains (cs.drop 1) ||
        (cs.head? == some '.' && isDigits fraction && isExponent tail)
    else
      (isDigits whole && isExponent tail) ||
        (isBaseSixty isDigits whole && tail.isEmpty)
  | _ => false

-- ================================================================ times

/-- The parts of a date or time as written. -/
structure TimeText where
  year : Nat
  month : Nat
  day : Nat
  /-- Month and day have two digits each. -/
  full : Bool
  clock : Option (Nat × Nat × Nat) := none
  fraction : List Char := []
  /-- Minutes east of universal time. -/
  zone : Option Int := none
deriving Repr, Inhabited

/-- Up to some digits at the start of a text, at least `least` of them,
with the text after them. -/
def takeDigits (least most : Nat) (cs : List Char) :
    Option (Nat × Nat × List Char) :=
  let digits := (cs.take most).takeWhile Char.isDigit
  if digits.length < least then none
  else
    some (digits.foldl (fun n d => n * 10 + (d.toNat - '0'.toNat)) 0,
      digits.length, cs.drop digits.length)

/-- The zone at the end of a time. -/
def zoneOf? (cs : List Char) : Option (Option Int) :=
  match cs with
  | [] => some none
  | _ =>
    match cs.dropWhile (fun c => c == ' ' || c == '\t') with
    | ['Z'] => some (some 0)
    | s :: rest =>
      if s == '+' || s == '-' then do
        let (hours, _, rest) ← takeDigits 1 2 rest
        let minutes ← match rest with
          | [] => some 0
          | ':' :: rest => do
            let (m, _, rest) ← takeDigits 2 2 rest
            if rest.isEmpty then some m else none
          | _ => none
        let total : Int := hours * 60 + minutes
        some (some (if s == '-' then -total else total))
      else none
    | [] => none

/-- The time behind a date. -/
def clockOf? (date : TimeText) (cs : List Char) : Option TimeText := do
  let cs ← match cs with
    | 'T' :: rest => some rest
    | 't' :: rest => some rest
    | c :: rest =>
      if c == ' ' || c == '\t' then
        some (rest.dropWhile (fun c => c == ' ' || c == '\t'))
      else none
    | [] => none
  let (hour, _, cs) ← takeDigits 1 2 cs
  let cs ← if cs.head? == some ':' then some (cs.drop 1) else none
  let (minute, _, cs) ← takeDigits 2 2 cs
  let cs ← if cs.head? == some ':' then some (cs.drop 1) else none
  let (second, _, cs) ← takeDigits 2 2 cs
  let (fraction, cs) := match cs with
    | '.' :: rest => rest.span Char.isDigit
    | cs => ([], cs)
  let zone ← zoneOf? cs
  some { date with
    clock := some (hour, minute, second), fraction := fraction, zone := zone }

/-- The parts of a date or time. -/
def timeText? (cs : List Char) : Option TimeText := do
  let (year, _, cs) ← takeDigits 4 4 cs
  let cs ← if cs.head? == some '-' then some (cs.drop 1) else none
  let (month, monthLength, cs) ← takeDigits 1 2 cs
  let cs ← if cs.head? == some '-' then some (cs.drop 1) else none
  let (day, dayLength, cs) ← takeDigits 1 2 cs
  let date : TimeText :=
    { year := year, month := month, day := day
      full := monthLength == 2 && dayLength == 2 }
  if cs.isEmpty then some date else clockOf? date cs

/-- Whether a text has the form of a date or time; a date without a time
has two digits for month and day. -/
def isTime (cs : List Char) : Bool :=
  match timeText? cs with
  | some t => t.full || t.clock.isSome
  | none => false

-- ================================================================ forms

/-- What a plain text is by its form. -/
def Form.ofPlain (s : String) : Form :=
  let cs := s.toList
  if truthWords.contains s then .bool
  else if isNumber cs then .float
  else if isInteger cs then .int
  else if s == "<<" then .merge
  else if nullWords.contains s then .null
  else if isTime cs then .timestamp
  else if s == "=" then .default
  else .text

end Outline.Yaml
