/-
Reading query texts.

A text is a sequence of patterns with blanks and comments between them.
Reading stops at the first error, which is named by its byte offset:
an unknown node kind or literal when it is met, an unknown label once
the pattern behind it has been read, and anything else that cannot
continue where it stands.

The position in a message counts only lines that hold something.
-/
import Outline.Query.Grammar
import Outline.Query.Pattern
import Outline.Text.Alphanumeric

namespace Outline

/-- Why a query text was rejected, at a byte offset. -/
inductive QueryError where
  | syntaxError (offset : Nat)
  | unknownKind (offset : Nat) (name : String)
  | unknownField (offset : Nat) (name : String)
deriving DecidableEq, Repr, Inhabited

namespace QueryError

/-- The byte offset of the error. -/
def offset : QueryError → Nat
  | syntaxError o => o
  | unknownKind o _ => o
  | unknownField o _ => o

/-- The row and column of an offset, counted over the lengths of the
lines that are not empty. -/
def position (offset row start : Nat) : List Nat → Nat × Int
  | [] => (row, (offset : Int) - start)
  | length :: rest =>
    if offset < start + length then (row, (offset : Int) - start)
    else position offset (row + 1) (start + length + 1) rest

/-- The lengths in bytes of the lines that are not empty. -/
def lineLengths (text : String) : List Nat :=
  ((text.splitOn "\n").filter (!·.isEmpty)).map (·.utf8ByteSize)

/-- The wording of the error for a text. -/
def reason (text : String) (e : QueryError) : String :=
  let (row, column) := position e.offset 0 0 (lineLengths text)
  let place := s!"at row {row}, column {column}"
  match e with
  | syntaxError o =>
    if text.utf8ByteSize ≤ o then "Unexpected EOF"
    else "Invalid syntax " ++ place
  | unknownKind _ name => "Invalid node type " ++ place ++ ": " ++ name
  | unknownField _ name => "Invalid field name " ++ place ++ ": " ++ name

end QueryError

namespace QueryText

/-- A place in a query text, with the capture names met so far, the
latest first. -/
structure Cursor where
  rest : List Char
  offset : Nat := 0
  captures : List String := []
deriving Repr, Inhabited

namespace Cursor

/-- The next character. -/
def next? (c : Cursor) : Option Char := c.rest.head?

/-- Past one character. -/
def advance (c : Cursor) : Cursor :=
  match c.rest with
  | [] => c
  | ch :: rest => { c with rest := rest, offset := c.offset + ch.utf8Size }

/-- Past the characters of a text that stands here. -/
def skip (c : Cursor) (cs : List Char) : Cursor :=
  { c with
    rest := c.rest.drop cs.length
    offset := c.offset + cs.foldl (fun n ch => n + ch.utf8Size) 0 }

end Cursor

/-- The blanks and comments at the front of a text, where `inComment`
says whether a comment has begun. -/
def blankRun (inComment : Bool) : List Char → List Char
  | [] => []
  | c :: rest =>
    if inComment then c :: blankRun (c != '\n') rest
    else if Text.isSpace c then c :: blankRun false rest
    else if c == ';' then c :: blankRun true rest
    else []

/-- Past blanks and comments. -/
def Cursor.skipBlanks (c : Cursor) : Cursor :=
  c.skip (blankRun false c.rest)

/-- Whether a name can start with the character. -/
def isNameStart (c : Char) : Bool :=
  Text.isAlphanumeric c || c == '_' || c == '-'

/-- Whether a name can go on with the character. -/
def isNameChar (c : Char) : Bool :=
  isNameStart c || c == '.'

/-- The name that stands here, and the place behind it. -/
def readName (c : Cursor) : Option (String × Cursor) :=
  match c.rest with
  | ch :: rest =>
    if isNameStart ch then
      let name := ch :: rest.takeWhile isNameChar
      some (String.ofList name, c.skip name)
    else none
  | [] => none

/-- The characters of a literal up to its closing quote, and how much
of the text they take with it. -/
def literalBody (read : List Char) (taken : List Char) :
    List Char → Option (List Char × List Char)
  | [] => none
  | '"' :: _ => some (read.reverse, ('"' :: taken).reverse)
  | '\n' :: _ => none
  | '\\' :: c :: rest =>
    let meant := match c with
      | 'n' => '\n'
      | 'r' => '\r'
      | 't' => '\t'
      | '0' => '\x00'
      | c => c
    literalBody (meant :: read) (c :: '\\' :: taken) rest
  | c :: rest => literalBody (c :: read) (c :: taken) rest

/-- A pattern and the place behind it, or the error. -/
abbrev Reading := Except QueryError (Pattern × Cursor)

/-- The error of something that cannot stand here. -/
def syntaxAt {α : Type} (c : Cursor) : Except QueryError α :=
  .error (.syntaxError c.offset)

/-- Reads capture names after a pattern; `fuel` bounds their number. -/
def readCaptures (p : Pattern) (c : Cursor) : (fuel : Nat) → Reading
  | 0 => syntaxAt c
  | fuel + 1 =>
    if c.next? = some '@' then
      match readName c.advance with
      | none => syntaxAt c.advance
      | some (name, after) =>
        readCaptures (p.capture name)
          { after.skipBlanks with captures := name :: after.captures } fuel
    else .ok (p, c)

/-- Reads the literal that stands here. -/
def readLiteral (words : Vocabulary) (c : Cursor) : Reading :=
  match literalBody [] [] (c.rest.drop 1) with
  | none => syntaxAt c
  | some (body, taken) =>
    let name := String.ofList body
    if words.hasLiteral name then
      .ok (.node none (.literal name) [] [], c.skip ('"' :: taken))
    else .error (.unknownKind (c.offset + 1) name)

mutual

/-- Reads one pattern with its captures; `fuel` bounds the number of
patterns and brackets still to be read. -/
def readPattern (words : Vocabulary) (fuel : Nat) (c : Cursor) :
    Reading :=
  match fuel with
  | 0 => syntaxAt c
  | fuel + 1 => do
    let (p, c) ←
      match c.next? with
      | some '[' => readAlternatives words fuel [] c.advance.skipBlanks
      | some '(' =>
        let inner := c.advance.skipBlanks
        match inner.next? with
        | some '(' | some '[' | some '"' => readGroup words fuel inner
        | _ => readNode words fuel inner
      | some '_' => .ok (.node none .any [] [], c.advance)
      | some '"' => readLiteral words c
      | _ => readLabelled words fuel c
    readCaptures p c.skipBlanks (c.rest.length + 1)

/-- Reads a label and the pattern behind it. -/
def readLabelled (words : Vocabulary) (fuel : Nat) (c : Cursor) :
    Reading :=
  match fuel with
  | 0 => syntaxAt c
  | fuel + 1 =>
    match readName c with
    | none => syntaxAt c
    | some (name, after) =>
      let colon := after.skipBlanks
      if colon.next? = some ':' then do
        let (p, rest) ← readPattern words fuel colon.advance.skipBlanks
        if words.hasField name then .ok (p.labelled name, rest)
        else .error (.unknownField c.offset name)
      else syntaxAt c

/-- Reads the alternatives up to the closing bracket; there is at least
one. -/
def readAlternatives (words : Vocabulary) (fuel : Nat) (read : List Pattern)
    (c : Cursor) : Reading :=
  match fuel with
  | 0 => syntaxAt c
  | fuel + 1 =>
    if c.next? = some ']' && !read.isEmpty then
      .ok (.anyOf none [] read.reverse, c.advance)
    else do
      let (p, c) ← readPattern words fuel c
      readAlternatives words fuel (p :: read) c

/-- Reads one pattern and the parenthesis that closes its group. -/
def readGroup (words : Vocabulary) (fuel : Nat) (c : Cursor) :
    Reading :=
  match fuel with
  | 0 => syntaxAt c
  | fuel + 1 => do
    let (p, c) ← readPattern words fuel c
    if c.next? = some ')' then .ok (p, c.advance) else syntaxAt c

/-- Reads a node pattern after its opening parenthesis. -/
def readNode (words : Vocabulary) (fuel : Nat) (c : Cursor) :
    Reading :=
  match fuel with
  | 0 => syntaxAt c
  | fuel + 1 =>
    match readName c with
    | none => syntaxAt c
    | some (name, after) =>
      if name = "_" then
        readChildren words fuel .named [] after.skipBlanks
      else if words.hasKind name then
        readChildren words fuel (.kind name) [] after.skipBlanks
      else .error (.unknownKind c.offset name)

/-- Reads child patterns up to the closing parenthesis. -/
def readChildren (words : Vocabulary) (fuel : Nat) (test : NodeTest)
    (read : List (Bool × Pattern)) (c : Cursor) : Reading :=
  match fuel with
  | 0 => syntaxAt c
  | fuel + 1 =>
    if c.next? = some ')' then
      .ok (.node none test [] read.reverse, c.advance)
    else do
      let anchored := c.next? = some '.'
      let (p, c) ← readPattern words fuel
        (if anchored then c.advance.skipBlanks else c)
      readChildren words fuel test ((anchored, p) :: read) c

end

/-- Reads the patterns of a whole text; `fuel` bounds their number. -/
def readAll (words : Vocabulary) (read : List Pattern) (c : Cursor) :
    (fuel : Nat) → Except QueryError Query
  | 0 => syntaxAt c
  | fuel + 1 =>
    if c.rest.isEmpty then
      .ok { patterns := read.reverse, captureNames := c.captures.reverse.eraseDups }
    else do
      let (p, c) ← readPattern words (3 * c.rest.length + 3) c
      readAll words (p :: read) c fuel

end QueryText

/-- Compiles a query text against the words of a grammar. -/
def Query.compile (words : Vocabulary) (text : String) :
    Except QueryError Query :=
  let start : QueryText.Cursor := { rest := text.toList }
  QueryText.readAll words [] start.skipBlanks (text.length + 1)

end Outline
