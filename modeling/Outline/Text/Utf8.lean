/-
Reading bytes as UTF-8, with a replacement character for what is not.

Names and contents of definitions are cut out of a source by byte
offsets, so a cut may fall inside a character and a source may hold no
text at all. Reading never fails: every maximal ill-formed part becomes
one U+FFFD, and reading resumes at the first byte that could not
continue it.

The reader looks at one byte at a time. Between bytes it either owes
nothing, or it is inside a character of which it knows the bits so far,
how many bytes are still to come, and the range the next one must lie
in. The range alone excludes overlong forms, surrogates and code points
past U+10FFFF, so no check is made on a finished character.
-/
namespace Outline.Utf8

/-- A character that has begun: its bits so far, the number of bytes it
still needs, and the range of the next one. -/
structure Begun where
  bits : Nat
  owed : Nat
  low : Nat := 0x80
  high : Nat := 0xBF
deriving DecidableEq, Repr

/-- What a byte is when no character has begun. -/
inductive Lead where
  | whole (c : Char)
  | begins (b : Begun)
  | stray
deriving DecidableEq, Repr

/-- The character that stands for an ill-formed part. -/
def replacement : Char := '\uFFFD'

/-- Reads a byte outside any character. The second byte of `E0`, `ED`,
`F0` and `F4` has a narrower range than the others. -/
def lead (byte : UInt8) : Lead :=
  let n := byte.toNat
  if n < 0x80 then .whole (Char.ofNat n)
  else if n < 0xC2 then .stray
  else if n < 0xE0 then .begins { bits := n - 0xC0, owed := 1 }
  else if n = 0xE0 then .begins { bits := 0, owed := 2, low := 0xA0 }
  else if n = 0xED then .begins { bits := 13, owed := 2, high := 0x9F }
  else if n < 0xF0 then .begins { bits := n - 0xE0, owed := 2 }
  else if n = 0xF0 then .begins { bits := 0, owed := 3, low := 0x90 }
  else if n < 0xF4 then .begins { bits := n - 0xF0, owed := 3 }
  else if n = 0xF4 then .begins { bits := 4, owed := 3, high := 0x8F }
  else .stray

/-- Whether a byte continues the character that has begun. -/
def Begun.accepts (b : Begun) (byte : UInt8) : Bool :=
  b.low ≤ byte.toNat && byte.toNat ≤ b.high

/-- The bits after a continuing byte. -/
def Begun.extend (b : Begun) (byte : UInt8) : Nat :=
  b.bits * 64 + (byte.toNat - 0x80)

/-- Reads the bytes that follow, inside a character or outside one. A
character cut off by the end or by a byte that cannot continue it is
replaced, and that byte is read afresh. -/
def decodeFrom : Option Begun → List UInt8 → List Char
  | none, [] => []
  | some _, [] => [replacement]
  | none, byte :: rest =>
    match lead byte with
    | .whole c => c :: decodeFrom none rest
    | .begins b => decodeFrom (some b) rest
    | .stray => replacement :: decodeFrom none rest
  | some b, byte :: rest =>
    if b.accepts byte then
      if b.owed = 1 then
        Char.ofNat (b.extend byte) :: decodeFrom none rest
      else
        decodeFrom (some { bits := b.extend byte, owed := b.owed - 1 }) rest
    else
      replacement ::
        match lead byte with
        | .whole c => c :: decodeFrom none rest
        | .begins b' => decodeFrom (some b') rest
        | .stray => replacement :: decodeFrom none rest

/-- The text of a byte list. -/
def decode (bytes : List UInt8) : String :=
  String.ofList (decodeFrom none bytes)

/-- The text of a byte list that is one. -/
def text? (bytes : List UInt8) : Option String :=
  String.fromUTF8? ⟨bytes.toArray⟩

/-- The bytes of a text. -/
def encode (text : String) : List UInt8 :=
  text.toUTF8.toList

end Outline.Utf8
