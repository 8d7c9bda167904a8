/-
Paths as texts.

A path is a root and a list of components; empty components and single
dots are dropped, and double dots stay. Two leading slashes are a root
of their own, one or more than two are the plain root. The file system
plays no part here.

The extension of a path decides its language. It comes from the last
component alone, and is lower-cased.
-/
import Outline.Text.Lower

namespace Outline

/-- A path without empty components and single dots. -/
structure LexicalPath where
  root : String
  parts : List String
deriving DecidableEq, Repr, Inhabited

namespace LexicalPath

/-- The root of a path text. -/
def rootOf : List Char → String
  | '/' :: '/' :: '/' :: _ => "/"
  | '/' :: '/' :: _ => "//"
  | '/' :: _ => "/"
  | _ => ""

/-- The components of a path text. -/
def components (cs : List Char) : List (List Char) :=
  (cs.splitOn '/').filter fun part => part != [] && part != ['.']

/-- Reads a path text. -/
def ofText (s : String) : LexicalPath :=
  { root := rootOf s.toList
    parts := (components s.toList).map String.ofList }

/-- The path as a text; nothing at all is written as a dot. -/
def toText (p : LexicalPath) : String :=
  let body := p.root ++ "/".intercalate p.parts
  if body.isEmpty then "." else body

/-- Whether the path starts at a root. -/
def isAbsolute (p : LexicalPath) : Bool := !p.root.isEmpty

/-- The path of a component below. -/
def child (p : LexicalPath) (name : String) : LexicalPath :=
  { p with parts := p.parts ++ [name] }

end LexicalPath

/-- The normal form of a path text. -/
def normalPath (s : String) : String := (LexicalPath.ofText s).toText

/-- The characters after the last dot of a name, if that dot is neither
its first nor its last character. -/
def suffixOf (name : List Char) : List Char :=
  let ending := (name.reverse.takeWhile (· != '.')).reverse
  -- the name is `stem ++ '.' :: ending` unless it has no dot
  let stemLength := name.length - ending.length - 1
  if name.contains '.' && 0 < stemLength then ending else []

/-- The extension of a path: the lower-cased suffix of its last
component. -/
def extensionOf (path : String) : String :=
  match (LexicalPath.components path.toList).getLast? with
  | none => ""
  | some name => Text.lower (String.ofList (suffixOf name))

end Outline
