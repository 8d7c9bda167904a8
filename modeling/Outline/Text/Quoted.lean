/-
Quoted text: a text between quotes in which every character can be
told apart.

Single quotes are used unless the text holds one and no double quote.
The quote in use and the backslash are escaped, the three common line
controls have letters, and a character that is not shown as itself is
written by its code point in two, four or eight hexadecimal digits.
-/
import Outline.Text.Printable

namespace Outline.Text

/-- A number in lower-case hexadecimal, padded with zeros. -/
def hexDigits (width n : Nat) : String :=
  let digits := Nat.toDigits 16 n
  String.ofList (List.replicate (width - digits.length) '0' ++ digits)

/-- One character inside quotes. -/
def quoteChar (quote c : Char) : String :=
  if c == quote || c == '\\' then String.ofList ['\\', c]
  else if c == '\n' then "\\n"
  else if c == '\r' then "\\r"
  else if c == '\t' then "\\t"
  else if isPrintable c then c.toString
  else if c.toNat < 0x100 then "\\x" ++ hexDigits 2 c.toNat
  else if c.toNat < 0x10000 then "\\u" ++ hexDigits 4 c.toNat
  else "\\U" ++ hexDigits 8 c.toNat

/-- The quote a text is written in. -/
def quoteFor (cs : List Char) : Char :=
  if cs.contains '\'' && !cs.contains '"' then '"' else '\''

/-- A text in quotes. -/
def quoted (s : String) : String :=
  let cs := s.toList
  let quote := quoteFor cs
  quote.toString ++ String.join (cs.map (quoteChar quote)) ++ quote.toString

/-- One byte inside quotes. -/
def quoteByte (quote : Char) (b : UInt8) : String :=
  if b.toNat < 0x80 then quoteChar quote (Char.ofNat b.toNat)
  else "\\x" ++ hexDigits 2 b.toNat

/-- Bytes in quotes, with a mark before them. -/
def quotedBytes (bs : List UInt8) : String :=
  let quote := quoteFor (bs.map fun b => Char.ofNat b.toNat)
  "b" ++ quote.toString ++ String.join (bs.map (quoteByte quote)) ++
    quote.toString

end Outline.Text
