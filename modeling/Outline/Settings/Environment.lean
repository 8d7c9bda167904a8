/-
Settings from environment variables.

A variable is named by the program, a section and a key, with double
underscores between them and in any case. The value of a whole section
may be given as JSON, and single keys are laid over it. Keys that hold
lists are JSON themselves; all other values are texts. The reader of JSON
is a parameter.
-/
import Outline.Settings.Document
import Outline.Text.Lower
import Outline.Value.Merge

namespace Outline

/-- Environment variables in order, the last of one name counting. -/
abbrev Environment := List (String × String)

namespace Environment

/-- The start of the names of all variables that hold settings. -/
def mark : String := "codestruct__"

/-- The keys of a section. -/
def keysOf : String → List String
  | "logging" => ["level", "outputs"]
  | "extraction" =>
    ["include_content", "resolve_scopes", "languages", "strict_queries",
      "max_file_size_mb", "max_workers", "file_timeout_sec"]
  | _ => []

/-- How the text of a variable is read. -/
inductive Encoding where
  | text
  | json
  | jsonOrText
deriving DecidableEq, Repr, Inhabited

/-- How the variable of a key is read. -/
def encodingOf : String → String → Encoding
  | "logging", "outputs" => .json
  | "extraction", "languages" => .jsonOrText
  | _, _ => .text

/-- The value of a variable's text. An empty text is never JSON. -/
def decode (json : String → Reading) (part key text : String) :
    Except LoadFault Value :=
  if encodingOf part key = .text || text.isEmpty then .ok (.text text)
  else
    match json text with
    | .value v => .ok v
    | .raised e => .error (.raised e)
    | .malformed _ =>
      if encodingOf part key = .json then .error (.environment part)
      else .ok (.text text)

/-- The parts of a name between double underscores. -/
def splitName : List Char → List Char → List String
  | read, [] => [String.ofList read]
  | read, '_' :: '_' :: rest => String.ofList read :: splitName [] rest
  | read, c :: rest => splitName (read ++ [c]) rest

/-- The names in lower case; of several variables of one name the last
counts, in the place of the first. -/
def lowered (vars : Environment) : Environment :=
  vars.foldl (fun out (name, text) =>
    let name := Text.lower name
    if (out.lookup name).isSome then
      out.map fun (n, t) => if n = name then (n, text) else (n, t)
    else out ++ [(name, text)]) []

/-- Puts a value under a path of keys. Where the path meets something
that is not a mapping the value has no place. -/
def setPath (entries : Entries) : List String → String → Value → Entries
  | [], last, v => Keyed.put (.text last) v entries
  | k :: ks, last, v =>
    match entries.get? (.text k) with
    | none => Keyed.put (.text k) (.map (setPath [] ks last v)) entries
    | some (.map inner) =>
      Keyed.put (.text k) (.map (setPath inner ks last v)) entries
    | some _ => entries

/-- The keys of a section that single variables give. -/
def nested (json : String → Reading) (part : String) :
    Environment → Entries → Except LoadFault Entries
  | [], entries => .ok entries
  | (name, text) :: rest, entries =>
    let start := (mark ++ part ++ "__").toList
    if start.isPrefixOf name.toList then do
      let parts := splitName [] (name.toList.drop start.length)
      let last := parts.getLast?.getD ""
      let path := parts.dropLast
      let value ←
        if path.isEmpty then decode json part last text
        else pure (.text text)
      nested json part rest (setPath entries path last value)
    else nested json part rest entries

/-- The entries with keys of the section spelled as the section spells
them. -/
def spelled (part : String) (entries : Entries) : Entries :=
  Entries.ofList (entries.map fun (k, v) =>
    match k with
    | .text s =>
      match (keysOf part).find? fun f => f == Text.lower s with
      | some f => (.text f, v)
      | none => (k, v)
    | _ => (k, v))

/-- What the environment says of a section. -/
def sectionValue (json : String → Reading) (vars : Environment)
    (part : String) : Except LoadFault (Option Value) :=
  match vars.lookup (mark ++ part) with
  | some text =>
    match json text with
    | .malformed _ => .error (.environment part)
    | .raised e => .error (.raised e)
    | .value .null => .ok none
    | .value (.map given) => do
      let keys ← nested json part vars []
      return some (.map (spelled part (Entries.merge given keys)))
    | .value v => .ok (some v)
  | none => do
    let keys ← nested json part vars []
    return if keys.isEmpty then none else some (.map (spelled part keys))

/-- The settings that the environment gives. -/
def settings (json : String → Reading) (vars : Environment) :
    Except LoadFault Entries := do
  let vars := vars.lowered
  let logging ← sectionValue json vars "logging"
  let extraction ← sectionValue json vars "extraction"
  return (logging.toList.map fun v => (Key.text "logging", v)) ++
    extraction.toList.map fun v => (Key.text "extraction", v)

end Environment

end Outline
