/-
What can go wrong, and how it is reported.

Each part of the library has its own causes of failure. A cause says
nothing of numbers or wording: `report` turns it into the form that
leaves the library, with a code, a message and structured details.
-/
import Outline.Value.Written

namespace Outline

-- ============================================================= reports

/-- The kinds of reports. Their numbers are grouped by thousands:
settings, languages, parsing, matches, internal. -/
inductive FaultCode where
  | configParseError
  | configInvalidValue
  | unsupportedLanguage
  | queryCompileError
  | duplicateExtension
  | grammarUnavailable
  | parseFailed
  | fileTooLarge
  | emptyMatch
  | missingNode
  | noName
  | internalError
  | internalTimeout
deriving DecidableEq, Repr, Inhabited

namespace FaultCode

/-- Every code. -/
def all : List FaultCode :=
  [configParseError, configInvalidValue, unsupportedLanguage,
    queryCompileError, duplicateExtension, grammarUnavailable, parseFailed,
    fileTooLarge, emptyMatch, missingNode, noName, internalError,
    internalTimeout]

/-- The number of a code. -/
def number : FaultCode → Nat
  | configParseError => 2001
  | configInvalidValue => 2002
  | unsupportedLanguage => 3001
  | queryCompileError => 3002
  | duplicateExtension => 3003
  | grammarUnavailable => 3004
  | parseFailed => 4001
  | fileTooLarge => 4002
  | emptyMatch => 5001
  | missingNode => 5002
  | noName => 5003
  | internalError => 9001
  | internalTimeout => 9002

/-- The name of a code. -/
def name : FaultCode → String
  | configParseError => "CONFIG_PARSE_ERROR"
  | configInvalidValue => "CONFIG_INVALID_VALUE"
  | unsupportedLanguage => "UNSUPPORTED_LANGUAGE"
  | queryCompileError => "QUERY_COMPILE_ERROR"
  | duplicateExtension => "DUPLICATE_EXTENSION"
  | grammarUnavailable => "GRAMMAR_UNAVAILABLE"
  | parseFailed => "PARSE_FAILED"
  | fileTooLarge => "FILE_TOO_LARGE"
  | emptyMatch => "EMPTY_MATCH"
  | missingNode => "MISSING_NODE"
  | noName => "NO_NAME"
  | internalError => "INTERNAL_ERROR"
  | internalTimeout => "INTERNAL_TIMEOUT"

/-- The code of a name. -/
def ofName? (s : String) : Option FaultCode :=
  all.find? (fun c => c.name == s)

end FaultCode

/-- Which part of the library a report comes from. -/
inductive FaultFamily where
  | general
  | settings
  | structural
  | matching
  | internal
deriving DecidableEq, Repr, Inhabited

/-- A failure as it leaves the library. -/
structure Report where
  family : FaultFamily
  code : FaultCode
  message : String
  retryable : Bool := false
  details : Entries := []
deriving Repr, Inhabited

namespace Report

/-- The name of the report's code. -/
def name (r : Report) : String := r.code.name

/-- The report on one line. -/
def line (r : Report) : String :=
  s!"[{r.code.number}] {r.name}: {r.message}"

/-- The report as structured data. -/
def toValue (r : Report) : Value :=
  .object [("code", .int r.code.number), ("error", .text r.name),
    ("message", .text r.message), ("retryable", .bool r.retryable),
    ("details", .map r.details)]

end Report

-- ======================================================= what is raised

/-- A failure of code outside the library that nobody in it takes care
of: its kind and what it says. -/
structure Raised where
  kind : String
  message : String
deriving DecidableEq, Repr, Inhabited

/-- What is raised when a value without a written form is to be written. -/
def Raised.unwritable : Raised := ⟨"ValueError", unwritableReason⟩

-- ============================================================== causes

/-- Why one match of a query cannot become a definition. The match is
named by the index of its pattern. -/
inductive MatchFault where
  | emptyMatch (pattern : Int)
  | missingNode (pattern : Int) (anchor : String)
  | noName (pattern : Int) (kind : String)
deriving DecidableEq, Repr, Inhabited

namespace MatchFault

/-- The report of a match that was passed over. -/
def report : MatchFault → Report
  | emptyMatch pattern =>
    { family := .matching
      code := .emptyMatch
      message := "Match carries no captures"
      details := [("pattern_index", .int pattern)] }
  | missingNode pattern anchor =>
    { family := .matching
      code := .missingNode
      message := s!"Match has no usable {anchor} anchor"
      details := [("pattern_index", .int pattern), ("missing", .text anchor)] }
  | noName pattern kind =>
    { family := .matching
      code := .noName
      message := s!"Name anchor of {kind} match spans no text"
      details := [("pattern_index", .int pattern), ("kind", .text kind)] }

end MatchFault

/-- Why a whole file has no outline, or a language is not registered. -/
inductive StructureFault where
  | unsupportedPath (path : String)
  | unknownLanguage (language : String)
  | noTree (path language : String)
  | tooLarge (path : String) (size limit : Int)
  | queryRejected (language reason : String)
  | extensionTaken (ext first second : String)
  | grammarUnavailable (language module : String)
deriving DecidableEq, Repr, Inhabited

namespace StructureFault

/-- The report of a file or language that failed. -/
def report : StructureFault → Report
  | unsupportedPath path =>
    { family := .structural
      code := .unsupportedLanguage
      message := s!"No language registered for {path}"
      details := [("path", .text path)] }
  | unknownLanguage language =>
    { family := .structural
      code := .unsupportedLanguage
      message := s!"Unknown language: {language}"
      details := [("language", .text language)] }
  | noTree path language =>
    { family := .structural
      code := .parseFailed
      message := s!"Parser produced no tree for {path}"
      details := [("path", .text path), ("language", .text language)] }
  | tooLarge path size limit =>
    { family := .structural
      code := .fileTooLarge
      message := s!"{path} is {size} bytes, limit is {limit}"
      details := [("path", .text path), ("size", .int size),
        ("limit", .int limit)] }
  | queryRejected language reason =>
    { family := .structural
      code := .queryCompileError
      message := s!"Definition query for {language} does not compile: {reason}"
      details := [("language", .text language), ("reason", .text reason)] }
  | extensionTaken ext first second =>
    { family := .structural
      code := .duplicateExtension
      message := s!"Extension '{ext}' claimed by both {first} and {second}"
      details := [("extension", .text ext),
        ("languages", .list [.text first, .text second])] }
  | grammarUnavailable language module =>
    { family := .structural
      code := .grammarUnavailable
      message := s!"Grammar module '{module}' for {language} is not installed"
      details := [("language", .text language), ("module", .text module)] }

end StructureFault

/-- Why settings could not be loaded. -/
inductive SettingsFault where
  | unreadable (path reason : String)
  | invalid (field : String) (value : Value) (reason : String)
deriving Repr, Inhabited

namespace SettingsFault

/-- The report of settings that could not be loaded. -/
def report : SettingsFault → Report
  | unreadable path reason =>
    { family := .settings
      code := .configParseError
      message := s!"Failed to parse config at {path}: {reason}"
      details := [("path", .text path), ("reason", .text reason)] }
  | invalid field value reason =>
    { family := .settings
      code := .configInvalidValue
      message := s!"Invalid value for '{field}': {reason}"
      details := [("field", .text field), ("value", .text value.toText),
        ("reason", .text reason)] }

end SettingsFault

/-- Failures that are nobody's input: the operating system, a worker, a
time limit. -/
inductive InternalFault where
  | unexpected (reason : String) (details : Entries)
  | timeout (path : String) (seconds : Value)
deriving Repr, Inhabited

namespace InternalFault

/-- The report of an internal failure; only a time limit is worth
another try. -/
def report : InternalFault → Report
  | unexpected reason details =>
    { family := .internal
      code := .internalError
      message := s!"Internal error: {reason}"
      details := details }
  | timeout path seconds =>
    { family := .internal
      code := .internalTimeout
      message := s!"Extraction of {path} exceeded {seconds.toText}s"
      retryable := true
      details := [("path", .text path), ("timeout_sec", seconds)] }

end InternalFault

end Outline
