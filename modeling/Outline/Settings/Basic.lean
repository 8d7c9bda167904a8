/-
The settings of the program.

There are two sections: where events are written, and how files are
outlined. Every setting has a default, so an empty document is a valid
one. `toValue` writes settings as a document that reads back as the
same settings.
-/
import Outline.Log.Event
import Outline.Value.Written

namespace Outline

-- =============================================================== logging

/-- How events are written. -/
inductive LogFormat where
  | json
  | console
deriving DecidableEq, Repr, Inhabited

/-- The name of a format. -/
def LogFormat.name : LogFormat → String
  | .json => "json"
  | .console => "console"

/-- One place where events are written: a standard stream or a file
named by an absolute path. Without a level of its own it takes the level
of the section. -/
structure LogOutput where
  format : LogFormat := .console
  destination : String := "stderr"
  level : Option Severity := none
deriving DecidableEq, Repr, Inhabited

/-- Where events are written. -/
structure LoggingSettings where
  level : Severity := .info
  outputs : List LogOutput := [{}]
deriving DecidableEq, Repr, Inhabited

-- ============================================================ extraction

/-- How files are outlined. -/
structure ExtractionSettings where
  includeContent : Bool := false
  resolveScopes : Bool := false
  languages : Option (List String) := none
  strictQueries : Bool := false
  maxFileSizeMb : Int := 10
  maxWorkers : Int := 1
  fileTimeout : Option Binary64 := none
deriving DecidableEq, Repr, Inhabited

/-- All settings. -/
structure Settings where
  logging : LoggingSettings := {}
  extraction : ExtractionSettings := {}
deriving DecidableEq, Repr, Inhabited

-- ============================================================== documents

/-- A severity as a document value, null for none. -/
def Severity.toValue? (level : Option Severity) : Value :=
  .ofText? (level.map Severity.name)

/-- The output as a document. -/
def LogOutput.toValue (o : LogOutput) : Value :=
  .object [("format", .text o.format.name),
    ("destination", .text o.destination),
    ("level", Severity.toValue? o.level)]

/-- The section as a document. -/
def LoggingSettings.toValue (s : LoggingSettings) : Value :=
  .object [("level", .text s.level.name),
    ("outputs", .list (s.outputs.map LogOutput.toValue))]

/-- The section as a document. -/
def ExtractionSettings.toValue (s : ExtractionSettings) : Value :=
  .object [("include_content", .bool s.includeContent),
    ("resolve_scopes", .bool s.resolveScopes),
    ("languages", .ofOption (s.languages.map fun ls => .list (ls.map .text))),
    ("strict_queries", .bool s.strictQueries),
    ("max_file_size_mb", .int s.maxFileSizeMb),
    ("max_workers", .int s.maxWorkers),
    ("file_timeout_sec", .ofOption (s.fileTimeout.map .float))]

/-- The settings as a document. -/
def Settings.toValue (s : Settings) : Value :=
  .object [("logging", s.logging.toValue),
    ("extraction", s.extraction.toValue)]

-- =============================================================== written

/-- Fields with their quoted values, as messages show a section. -/
def fieldTexts (fields : List (String × String)) : List String :=
  fields.map fun (name, text) => name ++ "=" ++ text

/-- The fields of an output as a message shows them. -/
def LogOutput.fieldTexts (o : LogOutput) : List String :=
  Outline.fieldTexts [("format", Text.quoted o.format.name),
    ("destination", Text.quoted o.destination),
    ("level", (Severity.toValue? o.level).quoted)]

/-- The fields of the section as a message shows them. -/
def LoggingSettings.fieldTexts (s : LoggingSettings) : List String :=
  let output (o : LogOutput) : String :=
    "LogOutputConfig(" ++ ", ".intercalate o.fieldTexts ++ ")"
  Outline.fieldTexts [("level", Text.quoted s.level.name),
    ("outputs", "[" ++ ", ".intercalate (s.outputs.map output) ++ "]")]

/-- The fields of the section as a message shows them. -/
def ExtractionSettings.fieldTexts (s : ExtractionSettings) : List String :=
  Outline.fieldTexts [("include_content", boolText s.includeContent),
    ("resolve_scopes", boolText s.resolveScopes),
    ("languages", (Value.ofOption
      (s.languages.map fun ls => .list (ls.map .text))).quoted),
    ("strict_queries", boolText s.strictQueries),
    ("max_file_size_mb", toString s.maxFileSizeMb),
    ("max_workers", toString s.maxWorkers),
    ("file_timeout_sec",
      (Value.ofOption (s.fileTimeout.map .float)).quoted)]

/-- The fields of the settings as a message shows them. -/
def Settings.fieldTexts (s : Settings) : List String :=
  Outline.fieldTexts
    [("logging",
      "LoggingConfig(" ++ ", ".intercalate s.logging.fieldTexts ++ ")"),
    ("extraction",
      "ExtractionConfig(" ++ ", ".intercalate s.extraction.fieldTexts ++
        ")")]

end Outline
