/-
Lenient reading of the scalars of a settings document.

The same setting may come from a document, where numbers and truth
values have types, or from an environment variable, where everything is
a text. A number may therefore be given as a text, a truth value as a
word, and an integer as a number without a fraction. Bytes are read as
the text they are, except where a word is to be chosen, and every
collection but a mapping is read as a list.
-/
import Outline.Number.Reading
import Outline.Settings.Issue
import Outline.Text.Alphanumeric
import Outline.Text.Utf8
import Outline.Value.Written

namespace Outline

-- =============================================================== texts

/-- A text without the blanks at its ends. -/
def trimmed (cs : List Char) : List Char :=
  ((cs.dropWhile Text.isBlank).reverse.dropWhile Text.isBlank).reverse

/-- Whether two underscores stand side by side. -/
def hasDoubleUnderscore : List Char → Bool
  | '_' :: '_' :: _ => true
  | _ :: rest => hasDoubleUnderscore rest
  | [] => false

/-- Removes single underscores between other characters. -/
def withoutUnderscores? (cs : List Char) : Option (List Char) :=
  if cs.head? == some '_' || cs.getLast? == some '_' ||
      hasDoubleUnderscore cs then
    none
  else some (cs.filter (· != '_'))

/-- Drops a decimal point that only zeros follow. -/
def withoutZeroFraction (cs : List Char) : List Char :=
  let (whole, rest) := cs.span (· != '.')
  match rest with
  | '.' :: zeros => if zeros.all (· == '0') then whole else cs
  | _ => cs

/-- Reads bytes as the text they are. -/
def checkBytes {α : Type} (kind : IssueKind) (read : String → Checked α)
    (bs : List UInt8) : Checked α :=
  match Utf8.text? bs with
  | some s => read s
  | none => .wrong kind (.bytes bs)

-- ============================================================= integers

/-- The integer of a text: blanks around it, a sign, leading zeros,
single underscores and a fraction of zeros are allowed. -/
def integerText? (s : String) : Option Int :=
  let (negative, digits) := splitSign (trimmed s.toList)
  if digits.head?.any Char.isDigit then
    ((withoutUnderscores? (withoutZeroFraction digits)).bind naturalOf?).map
      fun n => if negative then -(n : Int) else n
  else none

/-- The bound on numbers that may stand for integers. -/
def integerBound : Int := 9223372036854775808

/-- The integer that a number is equal to. -/
def integerOfNumber (x : Binary64) : Except IssueKind Int :=
  if x.isFinite then
    match x.toInt? with
    | none => .error .intFraction
    | some n =>
      if -integerBound < n && n < integerBound then .ok n else .error .intSize
  else .error .intInfinite

/-- Reads the integer of a text that a value is or holds. -/
def integerOfText (v : Value) (s : String) : Checked Int :=
  match integerText? s with
  | some n =>
    if n.natAbs < writtenBound then .passed n else .wrong .intSize v
  | none => .wrong .intText v

/-- Reads an integer. -/
def checkInt (v : Value) : Checked Int :=
  match v with
  | .int n => .passed n
  | .bool b => .passed (if b then 1 else 0)
  | .float x =>
    match integerOfNumber x with
    | .ok n => .passed n
    | .error kind => .wrong kind v
  | .text s => integerOfText v s
  | .bytes bs => checkBytes .intText (integerOfText v) bs
  | _ => .wrong .intType v

-- ============================================================== numbers

/-- The number of a text: blanks around it and single underscores are
allowed. -/
def numberText? (s : String) : Option Binary64 :=
  (Binary64.ofText? (String.ofList (trimmed s.toList))).or
    ((withoutUnderscores? s.toList).bind fun cs =>
      Binary64.ofText? (String.ofList (trimmed cs)))

/-- Reads the number of a text that a value is or holds. -/
def numberOfText (v : Value) (s : String) : Checked Binary64 :=
  match numberText? s with
  | some x => .passed x
  | none => .wrong .floatText v

/-- Reads a number. An integer beyond the range of numbers is none. -/
def checkFloat (v : Value) : Checked Binary64 :=
  match v with
  | .float x => .passed x
  | .bool b => .passed (.ofInt (if b then 1 else 0))
  | .int n =>
    let x := Binary64.ofInt n
    if x.isFinite then .passed x else .wrong .floatType v
  | .text s => numberOfText v s
  | .bytes bs => checkBytes .floatText (numberOfText v) bs
  | _ => .wrong .floatType v

-- ========================================================= truth values

/-- The words for true. -/
def trueWords : List String := ["1", "t", "y", "on", "yes", "true"]

/-- The words for false. -/
def falseWords : List String := ["0", "f", "n", "off", "no", "false"]

/-- Reads a truth value of an integer that fits a machine word. -/
def boolOfInt (v : Value) (n : Int) : Checked Bool :=
  if n = 0 then .passed false
  else if n = 1 then .passed true
  else .wrong .boolText v

/-- Reads the truth value of a text that a value is or holds; words count
in any case, without blanks. -/
def boolOfText (v : Value) (s : String) : Checked Bool :=
  let word := String.ofList (s.toList.map Char.toLower)
  if trueWords.contains word then .passed true
  else if falseWords.contains word then .passed false
  else .wrong .boolText v

/-- Reads a truth value. -/
def checkBool (v : Value) : Checked Bool :=
  match v with
  | .bool b => .passed b
  | .text s => boolOfText v s
  | .bytes bs => checkBytes .boolText (boolOfText v) bs
  | .int n =>
    if -integerBound ≤ n && n < integerBound then boolOfInt v n
    else .wrong .boolType v
  | .float x =>
    match integerOfNumber x with
    | .ok n => boolOfInt v n
    | .error _ => .wrong .boolType v
  | _ => .wrong .boolType v

-- ====================================================== texts and lists

/-- Reads a text. -/
def checkText (v : Value) : Checked String :=
  match v with
  | .text s => .passed s
  | .bytes bs => checkBytes .textBytes .passed bs
  | _ => .wrong .textType v

/-- Reads one of several words. -/
def checkChoice {α : Type} (choices : List (String × α)) (v : Value) :
    Checked α :=
  match v with
  | .text s =>
    match choices.lookup s with
    | some a => .passed a
    | none => .wrong (.choice (choices.map (·.1))) v
  | _ => .wrong (.choice (choices.map (·.1))) v

/-- Reads a list. -/
def checkList {α : Type} (check : Value → Checked α) (v : Value) :
    Checked (List α) :=
  match v with
  | .list items => Checked.items check 0 items
  | .group _ items => Checked.items check 0 items
  | _ => .wrong .listType v

/-- Reads what may be null. -/
def checkOptional {α : Type} (check : Value → Checked α) (v : Value) :
    Checked (Option α) :=
  match v with
  | .null => .passed none
  | _ => (check v).map some

end Outline
