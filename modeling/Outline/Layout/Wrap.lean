/-
Lines of a given width.

Words go on a line as long as they fit, with the blanks after them. A
word that is wider than a line is folded over several lines or, where
that is not wanted, cut off with an ellipsis. Widths are counted in
columns.
-/
import Outline.Text.Alphanumeric
import Outline.Text.Width

namespace Outline.Wrap

-- =============================================================== words

/-- Takes a word with the blanks around it. -/
def nextWord (cs : List Char) : List Char × List Char :=
  let white := cs.takeWhile Text.isWhite
  let rest := cs.dropWhile Text.isWhite
  let body := rest.takeWhile fun c => !Text.isWhite c
  let rest := rest.dropWhile fun c => !Text.isWhite c
  (white ++ body ++ rest.takeWhile Text.isWhite,
    rest.dropWhile Text.isWhite)

/-- The words of a text; blanks alone are none. The number of
characters is fuel enough. -/
def words : Nat → List Char → List (List Char)
  | 0, _ => []
  | fuel + 1, cs =>
    if cs.all Text.isWhite then []
    else
      let (word, rest) := nextWord cs
      word :: words fuel rest

/-- Cuts a text into parts of at most `width` columns. `part` is the
part up to here, backwards, and `used` its columns. -/
def chop (width used : Nat) (part : List Char) :
    List Char → List (List Char)
  | [] => [part.reverse]
  | c :: rest =>
    let w := Text.charWidth c
    if width < used + w then part.reverse :: chop width w [c] rest
    else chop width (used + w) (c :: part) rest

-- =============================================================== lines

/-- Lines under construction: those that are full, the one in hand and
the columns it uses. -/
structure Filling where
  full : List (List Char) := []
  line : List Char := []
  used : Nat := 0
deriving DecidableEq, Repr, Inhabited

namespace Filling

/-- Whether nothing is written yet. -/
def untouched (f : Filling) : Bool := f.full.isEmpty && f.line.isEmpty

/-- Begins a line with a text; the first line is there already. -/
def begin (f : Filling) (text : List Char) : Filling :=
  { full := if f.untouched then [] else f.full ++ [f.line]
    line := text
    used := Text.widthOf text }

/-- Adds a word. -/
def add (width : Nat) (fold : Bool) (f : Filling) (word : List Char) :
    Filling :=
  let size := Text.widthOf (Text.trimEnd word)
  if f.used + size ≤ width then
    { f with line := f.line ++ word, used := f.used + Text.widthOf word }
  else if width < size then
    if fold then (chop width 0 [] word).foldl begin f else f.begin word
  else if f.used = 0 then { f with line := f.line ++ word }
  else f.begin word

/-- All lines. -/
def lines (f : Filling) : List (List Char) := f.full ++ [f.line]

end Filling

/-- The lines of a text without line breaks. -/
def fill (width : Nat) (fold : Bool) (cs : List Char) : List (List Char) :=
  match words cs.length cs with
  | [] => [cs]
  | ws => (ws.foldl (Filling.add width fold) {}).lines

/-- A line without the blanks that do not fit it; here characters are
counted, not columns. -/
def dropExcess (width : Nat) (line : List Char) : List Char :=
  let white := line.length - (Text.trimEnd line).length
  line.take (line.length - min white (line.length - width))

/-- The first columns of a text. A wide character that is cut in half
becomes a blank. -/
def crop : Nat → List Char → List Char
  | _, [] => []
  | width, c :: rest =>
    let w := Text.charWidth c
    if w ≤ width then c :: crop (width - w) rest
    else List.replicate width ' '

/-- A line of at most `width` columns. -/
def fit (width : Nat) (fold : Bool) (line : List Char) : List Char :=
  if Text.widthOf line ≤ width then line
  else if fold then crop width line
  else crop (width - 1) line ++ ['…']

/-- The columns between two stops of the tabulator. -/
def tabWidth : Nat := 8

/-- Blanks for tabulators; `used` are the columns to the left. -/
def expandTabs (used : Nat) : List Char → List Char
  | [] => []
  | '\t' :: rest =>
    let blanks := tabWidth - used % tabWidth
    List.replicate blanks ' ' ++ expandTabs (used + blanks) rest
  | c :: rest => c :: expandTabs (used + Text.charWidth c) rest

/-- The lines of a text, none of which is wider than `width`. -/
def lines (width : Nat) (fold : Bool) (text : List Char) :
    List (List Char) :=
  (text.splitOn '\n').flatMap fun line =>
    (fill width fold (expandTabs 0 line)).map fun l =>
      fit width fold (dropExcess width l)

end Outline.Wrap
