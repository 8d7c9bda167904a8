/-
The tokens of a document.

Most tokens are marks that stand in the text. Three kinds do not: the
start and end of a block collection follow from indentation, and the
mark of a key is known only when the colon after it is found. The
scanner therefore remembers, for each depth of brackets, where a key may
have started, and puts the mark there when the colon comes.
-/
import Outline.Text.Utf8
import Outline.Yaml.Scalar

namespace Outline.Yaml

/-- A line that starts with a percent sign. -/
inductive Directive where
  | version (major : Nat)
  | tag (handle start : String)
  | other
deriving DecidableEq, Repr, Inhabited

/-- A token. -/
inductive Token where
  | directive (d : Directive)
  | documentStart
  | documentEnd
  | sequenceStart
  | mappingStart
  | blockEnd
  | openBracket
  | closeBracket
  | openBrace
  | closeBrace
  | entry
  | comma
  | key
  | value
  | alias (name : String)
  | anchor (name : String)
  | tag (handle : Option String) (suffix : String)
  | scalar (text : String) (plain : Bool)
deriving DecidableEq, Repr, Inhabited

-- ====================================================== names and tags

/-- A name after the mark of an anchor or alias. -/
def readName (c : Cursor) : Except ReadFault (String × Cursor) :=
  let (name, c) := c.next.span isNameChar
  if name.isEmpty then .error .malformed
  else if endsWord c.peek || c.peek.any ("?:,]\x7d%@`".toList.contains ·) then
    .ok (String.ofList name, c)
  else .error .malformed

/-- Whether a character may stand in a tag. -/
def isTagChar (c : Char) : Bool :=
  c.isAlphanum || "-;/?:@&=+$,_.!~*'()[]".toList.contains c

/-- The bytes of a run of percent escapes. -/
def readBytes : Nat → Cursor → List UInt8 →
    Except ReadFault (List UInt8 × Cursor)
  | 0, c, read => .ok (read, c)
  | fuel + 1, c, read =>
    if c.peek == some '%' then
      let digits := c.next.rest.take 2
      match digits.length, hexNumber? digits with
      | 2, some n => readBytes fuel (c.skip 3) (read ++ [n.toUInt8])
      | _, _ => .error .malformed
    else .ok (read, c)

/-- The text of a tag, with percent escapes resolved. -/
def readTagText : Nat → Cursor → List Char →
    Except ReadFault (List Char × Cursor)
  | 0, c, read => .ok (read, c)
  | fuel + 1, c, read => do
    let (run, c) := c.span isTagChar
    let read := read ++ run
    if c.peek == some '%' then
      let (bytes, c) ← readBytes (c.rest.length + 1) c []
      match String.fromUTF8? ⟨bytes.toArray⟩ with
      | some s => readTagText fuel c (read ++ s.toList)
      | none => throw .malformed
    else return (read, c)

/-- The text of a tag; it is never empty. -/
def readSuffix (c : Cursor) : Except ReadFault (String × Cursor) := do
  let (text, c) ← readTagText (c.rest.length + 1) c []
  if text.isEmpty then throw .malformed
  return (String.ofList text, c)

/-- A handle: one exclamation mark before a space, and otherwise a name
between two of them. -/
def readHandle (c : Cursor) : Except ReadFault (String × Cursor) :=
  if c.peek ≠ some '!' then .error .malformed
  else if c.peekAt 1 == some ' ' then .ok ("!", c.next)
  else
    let (name, d) := c.next.span isNameChar
    if d.peek == some '!' then
      .ok ("!" ++ String.ofList name ++ "!", d.next)
    else .error .malformed

/-- Whether a tag has a handle: another exclamation mark comes before
the end of the word. -/
def hasHandle (cs : List Char) : Bool :=
  (cs.takeWhile fun c => !(c == ' ' || isBreak c)).contains '!'

/-- A tag. -/
def readTag (c : Cursor) : Except ReadFault (Token × Cursor) := do
  let (token, c) ←
    if c.peekAt 1 == some '<' then
      let (suffix, c) ← readSuffix (c.skip 2)
      if c.peek == some '>' then pure (Token.tag none suffix, c.next)
      else throw .malformed
    else if endsWord (c.peekAt 1) then pure (Token.tag none "!", c.next)
    else if hasHandle (c.rest.drop 1) then
      let (handle, c) ← readHandle c
      let (suffix, c) ← readSuffix c
      pure (Token.tag (some handle) suffix, c)
    else
      let (suffix, c) ← readSuffix c.next
      pure (Token.tag (some "!") suffix, c)
  if c.peek == some ' ' || endsLine c.peek then return (token, c)
  throw .malformed

-- ========================================================== directives

/-- A decimal number in a directive. -/
def readNatural (c : Cursor) : Except ReadFault (Nat × Cursor) :=
  let (digits, c) := c.span Char.isDigit
  if digits.isEmpty then .error .malformed
  else .ok (digits.foldl (fun n d => n * 10 + (d.toNat - '0'.toNat)) 0, c)

/-- Whether a word of a directive ends here. -/
def endsDirectiveWord (ch : Option Char) : Bool :=
  ch == some ' ' || endsLine ch

/-- A directive with the rest of its line. -/
def readDirective (c : Cursor) : Except ReadFault (Directive × Cursor) := do
  let (name, c) := c.next.span isNameChar
  if name.isEmpty || !endsDirectiveWord c.peek then throw .malformed
  let (directive, c) ←
    if name == "YAML".toList then
      let (major, c) ← readNatural c.skipSpaces
      if c.peek ≠ some '.' then throw .malformed
      let (_, c) ← readNatural c.next
      if !endsDirectiveWord c.peek then throw .malformed
      pure (Directive.version major, c)
    else if name == "TAG".toList then
      let (handle, c) ← readHandle c.skipSpaces
      if c.peek ≠ some ' ' then throw .malformed
      let (start, c) ← readSuffix c.skipSpaces
      if !endsDirectiveWord c.peek then throw .malformed
      pure (Directive.tag handle start, c)
    else pure (Directive.other, c.skipWhile (fun ch => !isBreak ch))
  match c.restOfLine? with
  | some c => return (directive, c)
  | none => throw .malformed

-- ============================================================= scanner

/-- A place where a key may have started. It is required where the
indentation leaves no other choice. -/
structure KeyStart where
  token : Nat
  required : Bool
  index : Nat
  line : Nat
  column : Nat
deriving Repr, Inhabited

/-- The longest text of a key that needs no mark of its own. -/
def maxKeyLength : Nat := 1024

/-- What the scanner knows at a place: how deep it is in brackets, the
indentation of the open block collections, whether a key may start here
and where keys may have started, by depth. -/
structure Scanner where
  cursor : Cursor
  tokens : Array Token := #[]
  depth : Nat := 0
  indent : Int := -1
  outer : List Int := []
  keyAllowed : Bool := true
  starts : List (Nat × KeyStart) := []
deriving Inhabited

namespace Scanner

/-- Adds a token. -/
def push (s : Scanner) (t : Token) : Scanner :=
  { s with tokens := s.tokens.push t }

/-- Adds a token of some characters of the text. -/
def take (s : Scanner) (n : Nat) (t : Token) : Scanner :=
  { s.push t with cursor := s.cursor.skip n }

/-- Puts a token before others. -/
def insertAt (s : Scanner) (i : Nat) (t : Token) : Scanner :=
  { s with tokens := s.tokens.insertIdxIfInBounds i t }

/-- Forgets where a key may have started at this depth. -/
def dropStart (s : Scanner) : Except ReadFault Scanner :=
  match s.starts.lookup s.depth with
  | some start =>
    if start.required then .error .malformed
    else .ok { s with starts := s.starts.filter (·.1 != s.depth) }
  | none => .ok s

/-- Remembers that a key may start here. -/
def saveStart (s : Scanner) : Except ReadFault Scanner :=
  if s.keyAllowed then do
    let c := s.cursor
    let s ← s.dropStart
    let start : KeyStart :=
      { token := s.tokens.size
        required := s.depth == 0 && s.indent == (c.column : Int)
        index := c.index
        line := c.line
        column := c.column }
    return { s with starts := (s.depth, start) :: s.starts }
  else .ok s

/-- Whether a key that started there can no longer end. -/
def isStale (s : Scanner) (start : KeyStart) : Bool :=
  start.line ≠ s.cursor.line ||
    maxKeyLength < s.cursor.index - start.index

/-- Forgets the places that are too far back. -/
def dropStale (s : Scanner) : Except ReadFault Scanner :=
  if s.starts.any fun (_, k) => s.isStale k && k.required then
    .error .malformed
  else .ok { s with starts := s.starts.filter fun (_, k) => !s.isStale k }

/-- Closes the block collections that are indented further than a
column. -/
def unwindFrom (column : Int) : List Int → Scanner → Scanner
  | [], s => s
  | i :: outer, s =>
    if column < s.indent then
      unwindFrom column outer
        { s.push .blockEnd with indent := i, outer := outer }
    else s

/-- Closes the block collections that end here; inside brackets
indentation means nothing. -/
def unwind (s : Scanner) (column : Int) : Scanner :=
  if s.depth == 0 then unwindFrom column s.outer s else s

/-- Opens a block collection at a column, if it is indented further than
the current one. -/
def indentTo (s : Scanner) (column : Nat) (start : Nat) (t : Token) :
    Scanner :=
  if s.indent < (column : Int) then
    { s.insertAt start t with
      indent := column
      outer := s.indent :: s.outer }
  else s

/-- The end of everything that is open. -/
def closeAll (s : Scanner) : Except ReadFault Scanner := do
  let s ← (s.unwind (-1)).dropStart
  return { s with keyAllowed := false }

/-- Skips spaces, comments and line ends. After a line end a key may
start, but not inside brackets. -/
def skipBlanks : Nat → Scanner → Scanner
  | 0, s => s
  | fuel + 1, s =>
    let c := s.cursor.skipSpaces.skipComment
    match c.lineBreak? with
    | some (_, c) =>
      skipBlanks fuel
        { s with cursor := c, keyAllowed := s.keyAllowed || s.depth == 0 }
    | none => { s with cursor := c }

/-- A mark that opens a bracket; it may start a key. -/
def openFlow (s : Scanner) (t : Token) : Except ReadFault Scanner := do
  let s ← s.saveStart
  return { s.take 1 t with depth := s.depth + 1, keyAllowed := true }

/-- A mark that closes a bracket. -/
def closeFlow (s : Scanner) (t : Token) : Except ReadFault Scanner := do
  let s ← s.dropStart
  return { s.take 1 t with depth := s.depth - 1, keyAllowed := false }

/-- A comma. -/
def comma (s : Scanner) : Except ReadFault Scanner := do
  let s ← s.dropStart
  return { s.take 1 .comma with keyAllowed := true }

/-- The mark of an entry or of a key. In a block it may open a
collection, and then a key must be allowed there. -/
def mark (s : Scanner) (t opening : Token) (keyAllowed : Bool) :
    Except ReadFault Scanner := do
  let block := s.depth == 0
  if block && !s.keyAllowed then throw .malformed
  let s :=
    if block then s.indentTo s.cursor.column s.tokens.size opening else s
  let s ← s.dropStart
  return { s.take 1 t with keyAllowed := keyAllowed }

/-- A colon. If a key may have started at this depth its mark is put
there now; otherwise it ends a key that had a mark of its own. -/
def colon (s : Scanner) : Except ReadFault Scanner :=
  match s.starts.lookup s.depth with
  | some start =>
    let s := { s with starts := s.starts.filter (·.1 != s.depth) }
    let s := s.insertAt start.token .key
    let s :=
      if s.depth == 0 then s.indentTo start.column start.token .mappingStart
      else s
    .ok { s.take 1 .value with keyAllowed := false }
  | none => s.mark .value .mappingStart (s.depth == 0)

/-- A token that may start a key, read by a reader of its own. -/
def readAt (s : Scanner)
    (read : Cursor → Except ReadFault (Token × Cursor)) :
    Except ReadFault Scanner := do
  let s ← s.saveStart
  let (t, c) ← read s.cursor
  return { s.push t with cursor := c, keyAllowed := false }

/-- A plain scalar; after one that ends with its line a key may
start. -/
def plain (s : Scanner) : Except ReadFault Scanner := do
  let s ← s.saveStart
  let (text, c, ended) := readPlain (s.depth ≠ 0) (s.indent + 1) s.cursor
  return { s.push (.scalar text true) with cursor := c, keyAllowed := ended }

/-- A block scalar. -/
def block (s : Scanner) (fold : Bool) : Except ReadFault Scanner := do
  let s ← s.dropStart
  let (text, c) ← readBlock fold s.indent s.cursor
  return { s.push (.scalar text false) with cursor := c, keyAllowed := true }

/-- Whether a plain scalar may start with these characters. -/
def startsPlain (flow : Bool) (ch : Char) (next : Option Char) : Bool :=
  !(isGap ch || "-?:,[]\x7b\x7d#&*!|>'\"%@`".toList.contains ch) ||
    (!endsWord next && (ch == '-' || (!flow && (ch == '?' || ch == ':'))))

/-- The next token. -/
def token (s : Scanner) (ch : Char) : Except ReadFault Scanner :=
  let next := s.cursor.peekAt 1
  let flow := s.depth ≠ 0
  let first := s.cursor.column == 0
  let separator := first && s.cursor.atSeparator
  if ch == '%' && first then do
    let s ← s.closeAll
    let (d, c) ← readDirective s.cursor
    return { s.push (.directive d) with cursor := c }
  else if ch == '-' && separator then do
    return (← s.closeAll).take 3 .documentStart
  else if ch == '.' && separator then do
    return (← s.closeAll).take 3 .documentEnd
  else if ch == '[' then s.openFlow .openBracket
  else if ch == '\x7b' then s.openFlow .openBrace
  else if ch == ']' then s.closeFlow .closeBracket
  else if ch == '\x7d' then s.closeFlow .closeBrace
  else if ch == ',' then s.comma
  else if ch == '-' && endsWord next then s.mark .entry .sequenceStart true
  else if ch == '?' && (flow || endsWord next) then
    s.mark .key .mappingStart (!flow)
  else if ch == ':' && (flow || endsWord next) then s.colon
  else if ch == '*' then
    s.readAt fun c => do
      let (name, c) ← readName c
      return (.alias name, c)
  else if ch == '&' then
    s.readAt fun c => do
      let (name, c) ← readName c
      return (.anchor name, c)
  else if ch == '!' then s.readAt readTag
  else if (ch == '|' || ch == '>') && !flow then s.block (ch == '>')
  else if ch == '\'' || ch == '"' then
    s.readAt fun c => do
      let (text, c) ← readQuoted (ch == '"') c
      return (.scalar text false, c)
  else if startsPlain flow ch next then s.plain
  else .error .malformed

/-- Reads tokens up to the end of the text. -/
def run : Nat → Scanner → Except ReadFault Scanner
  | 0, _ => .error .malformed
  | fuel + 1, s => do
    let s ← (skipBlanks (s.cursor.rest.length + 1) s).dropStale
    let s := s.unwind s.cursor.column
    match s.cursor.peek with
    | none => s.closeAll
    | some ch => run fuel (← s.token ch)

end Scanner

/-- The tokens of a text. A byte order mark may come first. -/
def Token.scan (text : List Char) : Except ReadFault (List Token) := do
  let start : Cursor := { rest := text }
  let start := if start.peek == some '\uFEFF' then start.next else start
  let s ← Scanner.run (text.length + 1) { cursor := start }
  return s.tokens.toList

end Outline.Yaml
