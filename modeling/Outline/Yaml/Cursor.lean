/-
A place in a text, with its line and column.

The structure of a document hangs on columns, so a place keeps them
along with what is left of the text. Lines end at four characters; a
line end is read as a line feed, but the two Unicode separators stay
themselves.
-/
namespace Outline.Yaml

-- ========================================================== characters

/-- Whether a character ends a line. -/
def isBreak (c : Char) : Bool :=
  c == '\n' || c == '\u0085' || c == '\u2028' || c == '\u2029'

/-- Whether a character is a space, a tab or the end of a line. -/
def isGap (c : Char) : Bool := c == ' ' || c == '\t' || isBreak c

/-- Whether the text or the line ends here. -/
def endsLine : Option Char → Bool
  | none => true
  | some c => isBreak c

/-- Whether a word ends here. -/
def endsWord : Option Char → Bool
  | none => true
  | some c => isGap c

/-- Whether a character may stand in a name. -/
def isNameChar (c : Char) : Bool := c.isAlphanum || c == '-' || c == '_'

/-- Whether a character may stand in a document at all. -/
def isAllowed (c : Char) : Bool :=
  let n := c.toNat
  n == 0x09 || n == 0x0A || n == 0x0D || (0x20 ≤ n && n ≤ 0x7E) ||
    n == 0x85 || (0xA0 ≤ n && n ≤ 0xD7FF) || (0xE000 ≤ n && n ≤ 0xFFFD) ||
    0x10000 ≤ n

-- ============================================================== places

/-- A place in a text. -/
structure Cursor where
  rest : List Char
  index : Nat := 0
  line : Nat := 0
  column : Nat := 0
deriving Repr, Inhabited

namespace Cursor

/-- The character at the place. -/
def peek (c : Cursor) : Option Char := c.rest.head?

/-- The character some way on. -/
def peekAt (c : Cursor) (n : Nat) : Option Char := c.rest[n]?

/-- The place after the next character. A byte order mark takes no
column. -/
def next (c : Cursor) : Cursor :=
  match c.rest with
  | [] => c
  | ch :: rest =>
    if isBreak ch then ⟨rest, c.index + 1, c.line + 1, 0⟩
    else if ch == '\uFEFF' then ⟨rest, c.index + 1, c.line, c.column⟩
    else ⟨rest, c.index + 1, c.line, c.column + 1⟩

/-- The place some characters on. -/
def skip (c : Cursor) : Nat → Cursor
  | 0 => c
  | n + 1 => c.next.skip n

/-- The longest run of characters of a kind, and the place after it. -/
def span (p : Char → Bool) (c : Cursor) : List Char × Cursor :=
  let taken := c.rest.takeWhile p
  (taken, c.skip taken.length)

/-- The place after a run of characters of a kind. -/
def skipWhile (p : Char → Bool) (c : Cursor) : Cursor := (c.span p).2

/-- The place after spaces. -/
def skipSpaces (c : Cursor) : Cursor := c.skipWhile (· == ' ')

/-- The place after spaces, but not beyond a column. -/
def skipSpacesTo (column : Nat) : Nat → Cursor → Cursor
  | 0, c => c
  | fuel + 1, c =>
    if c.column < column && c.peek == some ' ' then
      skipSpacesTo column fuel c.next
    else c

/-- The place after a comment that starts here. -/
def skipComment (c : Cursor) : Cursor :=
  if c.peek == some '#' then c.skipWhile (fun ch => !isBreak ch) else c

/-- The end of a line as it is read, and the place after it. -/
def lineBreak? (c : Cursor) : Option (Char × Cursor) :=
  match c.peek with
  | some '\n' => some ('\n', c.next)
  | some '\u0085' => some ('\n', c.next)
  | some '\u2028' => some ('\u2028', c.next)
  | some '\u2029' => some ('\u2029', c.next)
  | _ => none

/-- Whether three dashes or three dots stand here as a word. -/
def atSeparator (c : Cursor) : Bool :=
  (c.rest.take 3 == ['-', '-', '-'] || c.rest.take 3 == ['.', '.', '.']) &&
    endsWord (c.peekAt 3)

/-- The rest of a line that may hold only spaces and a comment, and the
place on the next line. -/
def restOfLine? (c : Cursor) : Option Cursor :=
  let c := c.skipSpaces.skipComment
  if endsLine c.peek then
    match c.lineBreak? with
    | some (_, c) => some c
    | none => some c
  else none

end Cursor

/-- How a line end inside a scalar is read: a single one as a space, and
of several the first is dropped. -/
def folded (first : Char) (more : List Char) : List Char :=
  if first ≠ '\n' then first :: more
  else if more.isEmpty then [' ']
  else more

end Outline.Yaml
