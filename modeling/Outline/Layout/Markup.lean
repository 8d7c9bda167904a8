/-
Marked-up text without its marks.

A tag in brackets sets a style up to its closing tag. There is no style
on a plain stream, so all that is left of a text are its characters.
Tags are still read: one that closes nothing is an error, and a
backslash keeps a bracket from being a tag.
-/
import Outline.Text.Alphanumeric
import Outline.Text.Lower

namespace Outline.Markup

/-- A part of a marked-up text. -/
inductive Piece where
  | plain (text : List Char)
  | opening (name : List Char)
  | closing (name : List Char)
deriving DecidableEq, Repr, Inhabited

/-- Whether a tag may begin with a character. -/
def beginsTag (c : Char) : Bool :=
  c.isLower || c == '#' || c == '/' || c == '@'

/-- The tag that a text begins with, and the text after it. A tag ends
at the first closing bracket and holds no opening one. -/
def tag? : List Char → Option (List Char × List Char)
  | '[' :: c :: rest =>
    if beginsTag c then
      let body := rest.takeWhile fun c => c != '[' && c != ']'
      match rest.drop body.length with
      | ']' :: after => some (c :: body, after)
      | _ => none
    else none
  | _ => none

/-- Short names of attributes. -/
def shortNames : List (String × String) :=
  [("d", "dim"), ("b", "bold"), ("i", "italic"), ("u", "underline"),
    ("r", "reverse"), ("c", "conceal"), ("s", "strike"),
    ("uu", "underline2"), ("o", "overline")]

/-- The name of a style, as names are compared: in lower case, and with
the long name of an attribute. -/
def styleName (cs : List Char) : List Char :=
  let name := Text.lower (String.ofList (Text.trim cs))
  ((shortNames.lookup name).getD name).toList

/-- The piece of a tag. What follows an equals sign is no part of the
name. -/
def tagPiece (body : List Char) : Piece :=
  match body.takeWhile (· != '=') with
  | '/' :: name => .closing (styleName name)
  | name => .opening (styleName name)

/-- Plain text with `\[` written for a bracket. -/
def unescaped : List Char → List Char
  | '\\' :: '[' :: rest => '[' :: unescaped rest
  | c :: rest => c :: unescaped rest
  | [] => []

/-- The pieces of a text. Of the backslashes before a tag every second
one stays, and an odd one makes the tag plain text. `text` is the plain
text up to here, backwards; every step takes characters, so their number
is fuel enough. -/
def pieces : Nat → List Char → List Char → List Piece
  | 0, text, cs => [.plain (unescaped (text.reverse ++ cs))]
  | fuel + 1, text, cs =>
    let slashes := cs.takeWhile (· == '\\')
    let after := cs.drop slashes.length
    match tag? after with
    | some (body, rest) =>
      let kept := List.replicate (slashes.length / 2) '\\'
      let marked :=
        if slashes.length % 2 = 1 then .plain ('[' :: body ++ [']'])
        else tagPiece body
      .plain (unescaped text.reverse) :: .plain kept :: marked ::
        pieces fuel [] rest
    | none =>
      match slashes, after with
      | [], [] => [.plain (unescaped text.reverse)]
      | [], c :: rest => pieces fuel (c :: text) rest
      | _, _ => pieces fuel (slashes.reverse ++ text) after

/-- Closes the innermost style of a name, or the innermost one if the
name is empty. -/
def close? (name : List Char) (styles : List (List Char)) :
    Option (List (List Char)) :=
  if name.isEmpty then styles.tail?
  else if styles.contains name then some (styles.erase name)
  else none

/-- The characters of pieces, if every closing tag closes a style.
`styles` are the open ones, innermost first. -/
def characters? : List (List Char) → List Piece → Option (List Char)
  | _, [] => some []
  | styles, .plain text :: rest =>
    (characters? styles rest).map (text ++ ·)
  | styles, .opening name :: rest => characters? (name :: styles) rest
  | styles, .closing name :: rest =>
    match close? name styles with
    | none => none
    | some styles => characters? styles rest

/-- Whether a character moves the cursor and is never written. -/
def isMovement (c : Char) : Bool :=
  [0x07, 0x08, 0x0B, 0x0C, 0x0D].contains c.toNat

/-- The text without its marks; none if a tag closes nothing. -/
def plain? (s : String) : Option (List Char) :=
  let cs := s.toList
  (characters? [] (pieces (cs.length + 1) [] cs)).map
    (List.filter fun c => !isMovement c)

end Outline.Markup
