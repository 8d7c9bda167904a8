/-
Checking a settings document.

Each section is a mapping whose known fields are checked in a fixed
order; a field that is not there takes its default, and unknown fields
are passed over. A file that events go to is named by an absolute path,
with a leading tilde standing for a home directory.
-/
import Outline.Path
import Outline.Settings.Basic
import Outline.Settings.Scalar

namespace Outline

-- ================================================================= homes

/-- Where the home directories are: the one of the current user, if there
is one, and those of named accounts. -/
structure Homes where
  own : Option String := "/"
  accounts : List (String × String) := [("root", "/root")]
deriving DecidableEq, Repr, Inhabited

/-- Why a home directory cannot be found: nobody knows it, or its name is
none that could be asked for. -/
inductive HomeFault where
  | unknown
  | refused (reason : String)
deriving DecidableEq, Repr, Inhabited

namespace Homes

/-- A directory text without slashes at its end. -/
def stripped (dir : String) : String :=
  let kept := (dir.toList.reverse.dropWhile (· == '/')).reverse
  if kept.isEmpty then "/" else String.ofList kept

/-- Whether a text starts with a tilde. -/
def startsWithTilde (s : String) : Bool := s.toList.head? == some '~'

/-- A home directory that was found. With a tilde before it, it is taken
for one that was not. -/
def found (dir : Option String) : Except HomeFault String :=
  match dir.map stripped with
  | some dir => if startsWithTilde dir then .error .unknown else .ok dir
  | none => .error .unknown

/-- The home directory that a component such as `~` or `~name` stands
for. -/
def directory (homes : Homes) (component : String) :
    Except HomeFault String :=
  match component.toList with
  | ['~'] => found homes.own
  | '~' :: name =>
    if name.contains '\x00' then .error (.refused "embedded null byte")
    else found (homes.accounts.lookup (String.ofList name))
  | _ => .error .unknown

/-- Replaces a leading tilde of a relative path. -/
def expand (homes : Homes) (path : LexicalPath) :
    Except HomeFault LexicalPath :=
  match path.parts with
  | first :: rest =>
    if !path.isAbsolute && startsWithTilde first then
      (homes.directory first).map fun dir =>
        let home := LexicalPath.ofText dir
        { home with parts := home.parts ++ rest }
    else .ok path
  | [] => .ok path

end Homes

-- ================================================================ fields

/-- A field of a section: checked if it is there, else the default. -/
def checkField {α : Type} (entries : Entries) (name : String) (fallback : α)
    (check : Value → Checked α) : Checked α :=
  match entries.get? (.text name) with
  | none => .passed fallback
  | some v => (check v).under name

/-- Reads a severity by its settings name. -/
def checkLevel (v : Value) : Checked Severity :=
  checkChoice (Severity.all.map fun l => (l.name, l)) v

/-- Reads a format by its name. -/
def checkFormat (v : Value) : Checked LogFormat :=
  checkChoice ([LogFormat.json, .console].map fun f => (f.name, f)) v

/-- Reads a destination: a standard stream, or an absolute path in its
normal form. -/
def checkDestination (homes : Homes) (v : Value) : Checked String :=
  (checkText v).andThen fun s =>
    if s == "stderr" || s == "stdout" then .passed s
    else
      match homes.expand (LexicalPath.ofText s) with
      | .error .unknown => .homeless
      | .error (.refused reason) => .wrong (.refused reason) v
      | .ok path =>
        if path.isAbsolute then .passed path.toText
        else
          .wrong (.refused s!"File destination must be absolute path: {s}") v

/-- What is said of an integer below one. -/
def tooSmallReason (n : Int) : String :=
  if n.natAbs < writtenBound then s!"Must be >= 1, got {n}"
  else unwritableReason

/-- Reads an integer of at least one. -/
def checkPositive (v : Value) : Checked Int :=
  (checkInt v).andThen fun n =>
    if n < 1 then .wrong (.refused (tooSmallReason n)) v else .passed n

/-- Reads a time limit in seconds; null means none. A limit that cannot
be compared with zero is let through. -/
def checkTimeout (v : Value) : Checked (Option Binary64) :=
  (checkOptional checkFloat v).andThen fun limit =>
    match limit with
    | some x =>
      if x.nonpositive then
        .wrong (.refused s!"Timeout must be positive, got {x.toText}") v
      else .passed limit
    | none => .passed none

-- ============================================================== sections

/-- Reads a mapping and checks its fields. -/
def checkSection {α : Type} (expected : String) (check : Entries → Checked α)
    (v : Value) : Checked α :=
  match v with
  | .map entries => check entries
  | _ => .wrong (.sectionType expected) v

namespace LogOutput

/-- Checks the fields of an output. -/
def checkFields (homes : Homes) (e : Entries) : Checked LogOutput :=
  (((checkField e "format" .console checkFormat).map LogOutput.mk).ap
    (checkField e "destination" "stderr" (checkDestination homes))).ap
    (checkField e "level" none (checkOptional checkLevel))

/-- Reads an output. -/
def check (homes : Homes) (v : Value) : Checked LogOutput :=
  checkSection "LogOutputConfig" (checkFields homes) v

end LogOutput

namespace LoggingSettings

/-- Checks the fields of the section. -/
def checkFields (homes : Homes) (e : Entries) : Checked LoggingSettings :=
  ((checkField e "level" .info checkLevel).map LoggingSettings.mk).ap
    (checkField e "outputs" [{}] (checkList (LogOutput.check homes)))

/-- Reads the section. -/
def check (homes : Homes) (v : Value) : Checked LoggingSettings :=
  checkSection "LoggingConfig" (checkFields homes) v

/-- One output to the error stream, in one of the two formats, at a
level that is still to be checked. -/
def single (homes : Homes) (json : Bool) (level : Value) :
    Checked LoggingSettings :=
  let output : LogOutput := { format := if json then .json else .console }
  check homes
    (.object [("level", level), ("outputs", .list [output.toValue])])

end LoggingSettings

namespace ExtractionSettings

/-- Checks the fields of the section. -/
def checkFields (e : Entries) : Checked ExtractionSettings :=
  (((((((checkField e "include_content" false checkBool).map
    ExtractionSettings.mk).ap
    (checkField e "resolve_scopes" false checkBool)).ap
    (checkField e "languages" none (checkOptional (checkList checkText)))).ap
    (checkField e "strict_queries" false checkBool)).ap
    (checkField e "max_file_size_mb" 10 checkPositive)).ap
    (checkField e "max_workers" 1 checkPositive)).ap
    (checkField e "file_timeout_sec" none checkTimeout)

/-- Reads the section. -/
def check (v : Value) : Checked ExtractionSettings :=
  checkSection "ExtractionConfig" checkFields v

end ExtractionSettings

namespace Settings

/-- Checks the two sections. -/
def checkFields (homes : Homes) (e : Entries) : Checked Settings :=
  ((checkField e "logging" {} (LoggingSettings.check homes)).map
    Settings.mk).ap
    (checkField e "extraction" {} ExtractionSettings.check)

/-- Reads settings. -/
def check (homes : Homes) (v : Value) : Checked Settings :=
  checkSection "CodeStructConfig" (checkFields homes) v

end Settings

end Outline
