/-
The three ways to write a scalar: plain, quoted, and as a block.

Each reader starts at the first character of the scalar and returns the
text with the place after it. Line ends inside plain and quoted scalars
are folded into spaces; a block keeps them, or folds them where two
lines of text follow each other.
-/
import Outline.Yaml.Cursor
import Outline.Yaml.Fault

namespace Outline.Yaml

-- =============================================================== plain

/-- The longest word of a plain scalar. A colon ends it before a blank,
and inside brackets before a bracket or comma too. -/
def plainWord (flow : Bool) : List Char → List Char
  | [] => []
  | c :: rest =>
    let colonEnds := endsWord rest.head? ||
      (flow && rest.head?.any (",[]\x7b\x7d".toList.contains ·))
    if isGap c || (c == ':' && colonEnds) ||
        (flow && ",?[]\x7b\x7d".toList.contains c) then
      []
    else c :: plainWord flow rest

/-- The spaces and line ends between two lines of a plain scalar;
nothing if a document separator comes first. -/
def plainLines : Nat → Cursor → List Char → Option (List Char) × Cursor
  | 0, c, read => (some read, c)
  | fuel + 1, c, read =>
    if c.peek == some ' ' then plainLines fuel c.next read
    else
      match c.lineBreak? with
      | none => (some read, c)
      | some (b, c) =>
        if c.atSeparator then (none, c) else plainLines fuel c (read ++ [b])

/-- What stands between two words of a plain scalar, the place after
it, and whether a line ended there. -/
def plainGap (c : Cursor) : Option (List Char) × Cursor × Bool :=
  let (spaces, c) := c.span (· == ' ')
  match c.lineBreak? with
  | none => (some spaces, c, false)
  | some (b, c) =>
    if c.atSeparator then (none, c, true)
    else
      let (more, c) := plainLines (c.rest.length + 1) c []
      (more.map (folded b), c, true)

/-- The words of a plain scalar after what was read. The last part of
the answer says whether the scalar ends with a line. -/
def plainWords (flow : Bool) (indent : Int) :
    Nat → Cursor → List Char → Bool → List Char × Cursor × Bool
  | 0, c, read, ended => (read, c, ended)
  | fuel + 1, c, read, ended =>
    let word := plainWord flow c.rest
    if word.isEmpty || c.peek == some '#' then (read, c, ended)
    else
      let (gap, c, ended) := plainGap (c.skip word.length)
      match gap with
      | some (g :: gs) =>
        if c.peek == some '#' || (!flow && (c.column : Int) < indent) then
          (read ++ word, c, ended)
        else
          -- the gap counts only if another word follows it
          let next := plainWord flow c.rest
          if next.isEmpty then (read ++ word, c, ended)
          else plainWords flow indent fuel c (read ++ word ++ g :: gs) ended
      | _ => (read ++ word, c, ended)

/-- A plain scalar, the place after it, and whether it ends with a
line. -/
def readPlain (flow : Bool) (indent : Int) (c : Cursor) :
    String × Cursor × Bool :=
  let (text, c, ended) :=
    plainWords flow indent (c.rest.length + 1) c [] false
  (String.ofList text, c, ended)

-- ============================================================== quoted

/-- The empty lines inside a quoted scalar. -/
def quotedLines :
    Nat → Cursor → List Char → Except ReadFault (List Char × Cursor)
  | 0, _, _ => .error .malformed
  | fuel + 1, c, read =>
    if c.atSeparator then .error .malformed
    else
      let c := c.skipWhile (fun ch => ch == ' ' || ch == '\t')
      match c.lineBreak? with
      | some (b, c) => quotedLines fuel c (read ++ [b])
      | none => .ok (read, c)

/-- Blanks inside a quoted scalar, with the line ends among them. -/
def quotedGap (c : Cursor) : Except ReadFault (List Char × Cursor) :=
  let (blanks, c) := c.span (fun ch => ch == ' ' || ch == '\t')
  match c.lineBreak? with
  | some (b, c) => do
    let (more, c) ← quotedLines (c.rest.length + 1) c []
    .ok (folded b more, c)
  | none => if c.peek.isNone then .error .malformed else .ok (blanks, c)

/-- The character that an escape letter stands for. -/
def escaped? : Char → Option Char
  | '0' => some '\x00'
  | 'a' => some '\x07'
  | 'b' => some '\x08'
  | 't' => some '\t'
  | '\t' => some '\t'
  | 'n' => some '\n'
  | 'v' => some '\x0b'
  | 'f' => some '\x0c'
  | 'r' => some '\r'
  | 'e' => some '\x1b'
  | ' ' => some ' '
  | '"' => some '"'
  | '\\' => some '\\'
  | '/' => some '/'
  | 'N' => some '\u0085'
  | '_' => some '\u00a0'
  | 'L' => some '\u2028'
  | 'P' => some '\u2029'
  | _ => none

/-- How many hexadecimal digits follow an escape letter. -/
def escapeDigits? : Char → Option Nat
  | 'x' => some 2
  | 'u' => some 4
  | 'U' => some 8
  | _ => none

/-- The value of a hexadecimal digit. -/
def hexDigit? (c : Char) : Option Nat :=
  if c.isDigit then some (c.toNat - '0'.toNat)
  else if 'a' ≤ c && c ≤ 'f' then some (c.toNat - 'a'.toNat + 10)
  else if 'A' ≤ c && c ≤ 'F' then some (c.toNat - 'A'.toNat + 10)
  else none

/-- The value of hexadecimal digits. -/
def hexNumber? (cs : List Char) : Option Nat :=
  cs.foldl (fun n c => do some ((← n) * 16 + (← hexDigit? c))) (some 0)

/-- The character of a code. A half of a pair stands for no character
and is replaced. -/
def charOfCode (code : Nat) : Except ReadFault Char :=
  if code.isValidChar then .ok (Char.ofNat code)
  else if code < 0x110000 then .ok '\uFFFD'
  else .error (.badCharacter code)

/-- What an escape stands for, read after its backslash. -/
def readEscape (c : Cursor) : Except ReadFault (List Char × Cursor) :=
  match c.peek with
  | none => .error .malformed
  | some ch =>
    match escaped? ch, escapeDigits? ch, c.lineBreak? with
    | some e, _, _ => .ok ([e], c.next)
    | none, some n, _ => do
      let digits := c.next.rest.take n
      if digits.length < n then throw .malformed
      match hexNumber? digits with
      | none => throw .malformed
      | some code => .ok ([← charOfCode code], c.next.skip n)
    | none, none, some (_, c) => quotedLines (c.rest.length + 1) c []
    | none, none, none => .error .malformed

/-- A quoted scalar after its opening quote. -/
def quotedFrom (double : Bool) :
    Nat → Cursor → List Char → Except ReadFault (String × Cursor)
  | 0, _, _ => .error .malformed
  | fuel + 1, c, read =>
    match c.peek with
    | none => .error .malformed
    | some ch =>
      if isGap ch then do
        let (gap, c) ← quotedGap c
        quotedFrom double fuel c (read ++ gap)
      else if double && ch == '\\' then do
        let (text, c) ← readEscape c.next
        quotedFrom double fuel c (read ++ text)
      else if !double && ch == '\'' && c.peekAt 1 == some '\'' then
        quotedFrom double fuel (c.skip 2) (read ++ ['\''])
      else if ch == (if double then '"' else '\'') then
        .ok (String.ofList read, c.next)
      else
        let stops (d : Char) : Bool :=
          isGap d || d == '\'' || d == '"' || d == '\\'
        -- quotes and backslashes of the other style are plain text
        let (text, c) := c.next.span (fun d => !stops d)
        quotedFrom double fuel c (read ++ ch :: text)

/-- A quoted scalar. -/
def readQuoted (double : Bool) (c : Cursor) :
    Except ReadFault (String × Cursor) :=
  quotedFrom double (c.rest.length + 1) c.next []

-- ============================================================== blocks

/-- What happens to the line ends after a block. -/
inductive Chomping where
  | strip
  | clip
  | keep
deriving DecidableEq, Repr, Inhabited

/-- The chomping of an indicator. -/
def chompingOf? : Option Char → Option Chomping
  | some '+' => some .keep
  | some '-' => some .strip
  | _ => none

/-- The indentation of an indicator. -/
def incrementOf? (ch : Option Char) : Option Nat :=
  ch.bind fun c => if c.isDigit then some (c.toNat - '0'.toNat) else none

/-- The indicators of a block in either order. -/
def blockIndicators (c : Cursor) :
    Except ReadFault ((Chomping × Option Nat) × Cursor) :=
  let (chomping, increment, c) :=
    match chompingOf? c.peek, incrementOf? c.peek with
    | some k, _ =>
      match incrementOf? c.next.peek with
      | some n => (k, some n, c.skip 2)
      | none => (k, none, c.next)
    | none, some n =>
      match chompingOf? c.next.peek with
      | some k => (k, some n, c.skip 2)
      | none => (.clip, some n, c.next)
    | none, none => (.clip, none, c)
  if increment == some 0 then .error .malformed
  else if c.peek == some ' ' || endsLine c.peek then
    .ok ((chomping, increment), c)
  else .error .malformed

/-- The line ends before a block, and the widest indentation among the
empty lines. -/
def blockStart : Nat → Cursor → List Char → Nat → List Char × Nat × Cursor
  | 0, c, read, widest => (read, widest, c)
  | fuel + 1, c, read, widest =>
    if c.peek == some ' ' then
      blockStart fuel c.next read (max widest c.next.column)
    else
      match c.lineBreak? with
      | some (b, c) => blockStart fuel c (read ++ [b]) widest
      | none => (read, widest, c)

/-- The empty lines inside a block. -/
def blockBreaks (indent : Nat) :
    Nat → Cursor → List Char → List Char × Cursor
  | 0, c, read => (read, c)
  | fuel + 1, c, read =>
    let c := Cursor.skipSpacesTo indent (indent + 1) c
    match c.lineBreak? with
    | some (b, c) => blockBreaks indent fuel c (read ++ [b])
    | none => (read, c)

/-- Whether another line of the block starts here. -/
def inBlock (indent : Nat) (c : Cursor) : Bool :=
  c.column == indent && c.peek.isSome

/-- The lines of a block: the text, its last line end, and the empty
lines after it. -/
def blockLines (fold : Bool) (indent : Nat) :
    Nat → Cursor → List Char → List Char →
      List Char × List Char × List Char × Cursor
  | 0, c, breaks, read => (read, [], breaks, c)
  | fuel + 1, c, breaks, read =>
    if inBlock indent c then
      let isBlank (ch : Option Char) : Bool :=
        ch == some ' ' || ch == some '\t'
      let text := !isBlank c.peek
      let (line, c) := c.span (fun ch => !isBreak ch)
      let (ending, c) := match c.lineBreak? with
        | some (b, c) => ([b], c)
        | none => ([], c)
      let (more, c) := blockBreaks indent (c.rest.length + 1) c []
      let read := read ++ breaks ++ line
      if inBlock indent c then
        let joint :=
          if fold && ending == ['\n'] && text && !isBlank c.peek then
            if more.isEmpty then [' '] else []
          else ending
        blockLines fold indent fuel c more (read ++ joint)
      else (read, ending, more, c)
    else (read, [], breaks, c)

/-- A block, read after its indicator. -/
def readBlock (fold : Bool) (indent : Int) (c : Cursor) :
    Except ReadFault (String × Cursor) := do
  let ((chomping, increment), c) ← blockIndicators c.next
  let c ← match c.restOfLine? with
    | some c => pure c
    | none => throw .malformed
  let least := (max (indent + 1) 1).toNat
  let (breaks, width, c) := match increment with
    | some n =>
      let width := least + n - 1
      let (breaks, c) := blockBreaks width (c.rest.length + 1) c []
      (breaks, width, c)
    | none =>
      let (breaks, widest, c) := blockStart (c.rest.length + 1) c [] 0
      (breaks, max least widest, c)
  let (text, ending, tail, c) :=
    blockLines fold width (c.rest.length + 1) c breaks []
  let closing := match chomping with
    | .strip => []
    | .clip => ending
    | .keep => ending ++ tail
  return (String.ofList (text ++ closing), c)

end Outline.Yaml
