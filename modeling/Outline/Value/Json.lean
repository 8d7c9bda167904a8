/-
JSON texts of values.

Reading takes the whole text or nothing: blanks may surround the value
and nothing else may follow it. Numbers with a fraction or an exponent
are floating-point and all others are integers of any size; the names
of the special floating-point numbers are read as well. A key given
twice keeps its first place and its last value.

Writing escapes everything outside ASCII, and is either one line or
indented by two blanks a level.
-/
import Outline.Number.Shortest
import Outline.Text.Quoted
import Outline.Value.Basic

namespace Outline.Json

-- ============================================================= reading

/-- Whether a character may surround a value. -/
def isBlank (c : Char) : Bool :=
  c == ' ' || c == '\t' || c == '\n' || c == '\r'

/-- The value of a hexadecimal digit. -/
def hexValue? (c : Char) : Option Nat :=
  if '0' ≤ c && c ≤ '9' then some (c.toNat - '0'.toNat)
  else if 'a' ≤ c && c ≤ 'f' then some (c.toNat - 'a'.toNat + 10)
  else if 'A' ≤ c && c ≤ 'F' then some (c.toNat - 'A'.toNat + 10)
  else none

/-- The value of hexadecimal digits. -/
def hexNumber? (cs : List Char) : Option Nat :=
  cs.foldlM (fun n c => (hexValue? c).map (n * 16 + ·)) 0

/-- The character after a backslash, for the escapes of one letter. -/
def escape? : Char → Option Char
  | '"' => some '"'
  | '\\' => some '\\'
  | '/' => some '/'
  | 'b' => some '\x08'
  | 'f' => some '\x0c'
  | 'n' => some '\n'
  | 'r' => some '\r'
  | 't' => some '\t'
  | _ => none

/-- Whether a 16-bit unit is the first half of a pair. -/
def isHighHalf (n : Nat) : Bool := 0xD800 ≤ n && n < 0xDC00

/-- Whether a 16-bit unit is the second half of a pair. -/
def isLowHalf (n : Nat) : Bool := 0xDC00 ≤ n && n < 0xE000

/-- The character of one 16-bit unit; half a pair has none of its own. -/
def unitChar (n : Nat) : Char :=
  if isHighHalf n || isLowHalf n then '\uFFFD' else Char.ofNat n

/-- The character of a pair of 16-bit units. -/
def pairChar (high low : Nat) : Char :=
  Char.ofNat (0x10000 + (high - 0xD800) * 0x400 + (low - 0xDC00))

/-- The second half of a pair, if its escape stands here. -/
def lowHalf? : List Char → Option Nat
  | '\\' :: 'u' :: a :: b :: c :: d :: _ =>
    (hexNumber? [a, b, c, d]).filter isLowHalf
  | _ => none

/-- Reads a text after its opening quote. -/
def readText (read : List Char) :
    List Char → Option (String × List Char)
  | [] => none
  | '"' :: rest => some (String.ofList read.reverse, rest)
  | '\\' :: 'u' :: a :: b :: c :: d :: rest =>
    match hexNumber? [a, b, c, d] with
    | none => none
    | some n =>
      match isHighHalf n, lowHalf? rest with
      | true, some low => readText (pairChar n low :: read) (rest.drop 6)
      | _, _ => readText (unitChar n :: read) rest
  | '\\' :: c :: rest =>
    match escape? c with
    | some e => readText (e :: read) rest
    | none => none
  | c :: rest => if c.toNat < 0x20 then none else readText (c :: read) rest
termination_by cs => cs.length
decreasing_by all_goals simp <;> omega

/-- Splits off the leading decimal digits. -/
def spanDigits (cs : List Char) : List Char × List Char :=
  cs.span Char.isDigit

/-- The number of decimal digits. -/
def digitsValue (cs : List Char) : Nat :=
  cs.foldl (fun n c => n * 10 + (c.toNat - '0'.toNat)) 0

/-- Reads an exponent, if one stands here. -/
def readExponent (cs : List Char) : Option (Int × List Char) :=
  match cs with
  | e :: rest =>
    if e == 'e' || e == 'E' then
      let (negative, rest) : Bool × List Char := match rest with
        | '-' :: r => (true, r)
        | '+' :: r => (false, r)
        | r => (false, r)
      match spanDigits rest with
      | ([], _) => none
      | (digits, rest) =>
        let n : Int := digitsValue digits
        some (if negative then -n else n, rest)
    else none
  | [] => none

/-- Reads an unsigned number. -/
def readNumber (negative : Bool) (cs : List Char) :
    Option (Value × List Char) :=
  let whole? : Option (List Char × List Char) := match cs with
    | '0' :: rest => some (['0'], rest)
    | _ => match spanDigits cs with
      | ([], _) => none
      | split => some split
  whole?.map fun (whole, rest) =>
    let fraction? : Option (List Char × List Char) := match rest with
      | '.' :: more => match spanDigits more with
        | ([], _) => none
        | split => some split
      | _ => none
    let (fraction, rest) := fraction?.getD ([], rest)
    match readExponent rest, fraction with
    | none, [] =>
      let n : Int := digitsValue whole
      (.int (if negative then -n else n), rest)
    | none, _ => (.float (.ofParts negative whole fraction 0), rest)
    | some (power, rest), _ =>
      (.float (.ofParts negative whole fraction power), rest)

/-- Splits off a word that must stand here. -/
def readWord (word : String) (cs : List Char) : Option (List Char) :=
  if word.toList.isPrefixOf cs then some (cs.drop word.length) else none

/-- Reads a value that is one word or a number. -/
def readAtom (cs : List Char) : Option (Value × List Char) :=
  let words : List (String × Value) :=
    [("null", .null), ("true", .bool true), ("false", .bool false),
      ("NaN", .float .nan), ("Infinity", .float (.infinite false)),
      ("-Infinity", .float (.infinite true))]
  match words.findSome? (fun (w, v) => (readWord w cs).map (v, ·)) with
  | some found => some found
  | none => match cs with
    | '-' :: rest => readNumber true rest
    | _ => readNumber false cs

/-- Drops leading blanks. -/
def skipBlanks (cs : List Char) : List Char := cs.dropWhile isBlank

mutual

/-- Reads one value; `fuel` bounds the number of values and separators
still to be read. -/
def readValue (fuel : Nat) (cs : List Char) : Option (Value × List Char) :=
  match fuel with
  | 0 => none
  | fuel + 1 =>
    match cs with
    | '"' :: rest => (readText [] rest).map fun (s, rest) => (.text s, rest)
    | '[' :: rest =>
      match skipBlanks rest with
      | ']' :: rest => some (.list [], rest)
      | rest => readItems fuel [] rest
    | '\x7b' :: rest =>
      match skipBlanks rest with
      | '\x7d' :: rest => some (.map [], rest)
      | rest => readEntries fuel [] rest
    | _ => readAtom cs

/-- Reads the items of a list up to its closing bracket. -/
def readItems (fuel : Nat) (read : List Value) (cs : List Char) :
    Option (Value × List Char) :=
  match fuel with
  | 0 => none
  | fuel + 1 =>
    match readValue fuel (skipBlanks cs) with
    | none => none
    | some (v, rest) =>
      match skipBlanks rest with
      | ',' :: rest => readItems fuel (v :: read) rest
      | ']' :: rest => some (.list (v :: read).reverse, rest)
      | _ => none

/-- Reads the entries of a mapping up to its closing brace. -/
def readEntries (fuel : Nat) (read : List (Key × Value)) (cs : List Char) :
    Option (Value × List Char) :=
  match fuel with
  | 0 => none
  | fuel + 1 =>
    match skipBlanks cs with
    | '"' :: rest =>
      match readText [] rest with
      | none => none
      | some (key, rest) =>
        match skipBlanks rest with
        | ':' :: rest =>
          match readValue fuel (skipBlanks rest) with
          | none => none
          | some (v, rest) =>
            match skipBlanks rest with
            | ',' :: rest =>
              readEntries fuel ((Key.text key, v) :: read) rest
            | '\x7d' :: rest =>
              some (.map (Entries.ofList ((Key.text key, v) :: read).reverse),
                rest)
            | _ => none
        | _ => none
    | _ => none

end

/-- Reads a whole text as one value. -/
def read? (text : String) : Option Value :=
  let cs := skipBlanks text.toList
  match readValue (2 * cs.length + 2) cs with
  | some (v, rest) => if (skipBlanks rest).isEmpty then some v else none
  | none => none

-- ============================================================= writing

/-- One character of a text, outside ASCII as 16-bit units. -/
def writeChar (c : Char) : String :=
  let n := c.toNat
  if c == '"' then "\\\""
  else if c == '\\' then "\\\\"
  else if c == '\n' then "\\n"
  else if c == '\r' then "\\r"
  else if c == '\t' then "\\t"
  else if n == 0x08 then "\\b"
  else if n == 0x0C then "\\f"
  else if 0x20 ≤ n && n < 0x7F then c.toString
  else if n < 0x10000 then "\\u" ++ Text.hexDigits 4 n
  else
    "\\u" ++ Text.hexDigits 4 (0xD800 + (n - 0x10000) / 0x400) ++
      "\\u" ++ Text.hexDigits 4 (0xDC00 + (n - 0x10000) % 0x400)

/-- A text in quotes. -/
def writeText (s : String) : String :=
  "\"" ++ s.foldl (fun out c => out ++ writeChar c) "" ++ "\""

/-- A floating-point number; the special ones have names. -/
def writeFloat : Binary64 → String
  | .nan => "NaN"
  | .infinite s => if s then "-Infinity" else "Infinity"
  | x => x.toText

/-- A scalar key as the text it is written as. -/
def keyText : Key → String
  | .null => "null"
  | .bool b => if b then "true" else "false"
  | .int n => toString n
  | .float x => writeFloat x
  | .date d => s!"{d.year}-{d.month}-{d.day}"
  | .timestamp t => s!"{t.date.year}-{t.date.month}-{t.date.day}"
  | .text s => s
  | .bytes bs => Text.quotedBytes bs

/-- How the parts of a list or mapping are set apart: `depth` is the
level of the closing bracket, and `none` keeps all on one line. -/
def layout (opening closing : String) (depth : Option Nat)
    (parts : List String) : String :=
  match parts, depth with
  | [], _ => opening ++ closing
  | parts, none => opening ++ ", ".intercalate parts ++ closing
  | parts, some d =>
    let line (d : Nat) := "\n" ++ String.ofList (List.replicate (2 * d) ' ')
    opening ++ line (d + 1) ++ ("," ++ line (d + 1)).intercalate parts ++
      line d ++ closing

mutual

/-- Writes a value, on one line or at a level of indentation. -/
def writeAt (depth : Option Nat) : Value → String
  | .null => "null"
  | .bool b => if b then "true" else "false"
  | .int n => toString n
  | .float x => writeFloat x
  | .date d => writeText (keyText (.date d))
  | .timestamp t => writeText (keyText (.timestamp t))
  | .text s => writeText s
  | .bytes bs => writeText (Text.quotedBytes bs)
  | .list items =>
    layout "[" "]" depth (writeItems (depth.map (· + 1)) items)
  | .group _ items =>
    layout "[" "]" depth (writeItems (depth.map (· + 1)) items)
  | .map entries =>
    layout "\x7b" "\x7d" depth (writeEntries (depth.map (· + 1)) entries)

/-- Writes the items of a list. -/
def writeItems (depth : Option Nat) : List Value → List String
  | [] => []
  | v :: rest => writeAt depth v :: writeItems depth rest

/-- Writes the entries of a mapping. -/
def writeEntries (depth : Option Nat) : List (Key × Value) → List String
  | [] => []
  | (k, v) :: rest =>
    (writeText (keyText k) ++ ": " ++ writeAt depth v) ::
      writeEntries depth rest

end

/-- A value on one line. -/
def line (v : Value) : String := writeAt none v

/-- A value over several lines. -/
def indented (v : Value) : String := writeAt (some 0) v

end Outline.Json
