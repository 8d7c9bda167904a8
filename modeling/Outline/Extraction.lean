/-
The outline of one file.

An engine turns bytes into a tree and runs queries on it. The matches
are taken in order: each becomes a definition, or is passed over with
an event that says why. One bad match never costs another one.
-/
import Outline.Language.Registry
import Outline.Query.Search

namespace Outline

/-- What an outline includes beyond kind, name and range. -/
structure ExtractOptions where
  includeContent : Bool := false
  resolveScopes : Bool := false
deriving DecidableEq, Repr, Inhabited

/-- The outline of a file: its definitions in the order of the matches. -/
structure FileOutline where
  path : String
  language : String
  definitions : List Definition
deriving DecidableEq, Repr, Inhabited

/-- The outline as structured data. -/
def FileOutline.toValue (o : FileOutline) : Value :=
  .object [("file_path", .text o.path), ("language", .text o.language),
    ("definitions", .list (o.definitions.map Definition.toValue))]

/-- A parser for sources, and a query runner for its trees. -/
structure Engine where
  parse : Grammar → List UInt8 → Option Forest
  run : Query → Grammar → Forest → List Match :=
    fun q g F => q.run F g

/-- The logger of outlines. -/
def extractionLogger : String := "codestruct.structure.parser"

/-- The definition of one match. -/
def Language.resolve (l : Language) (F : Forest) (source : List UInt8)
    (options : ExtractOptions) (m : Match) : Except MatchFault Definition :=
  match l.process F m options.resolveScopes with
  | .error e => .error e
  | .ok p =>
    p.anchors.resolve F source p.pattern options.includeContent
      { type := p.enclosingType.bind F.scopeName
        function := p.enclosingFunction.bind F.scopeName }

/-- The event of a match that was passed over. -/
def skippedEvent (path language : String) (e : MatchFault) : Event :=
  { logger := extractionLogger
    severity := .debug
    name := "match_skipped"
    fields := [("path", .text path), ("language", .text language),
      ("error", .text e.report.name), ("details", .map e.report.details)] }

/-- The event of a file that is done. -/
def parsedEvent (path language : String) (definitions skipped : Nat) :
    Event :=
  { logger := extractionLogger
    severity := .debug
    name := "file_parsed"
    fields := [("path", .text path), ("language", .text language),
      ("definitions", .int definitions), ("skipped", .int skipped)] }

/-- What the matches so far have given: definitions, the number of
matches that were passed over, and what was said about them. -/
structure Scan where
  definitions : List Definition := []
  skipped : Nat := 0
  events : List Event := []
deriving Repr, Inhabited

/-- Takes one match more. A match that fails is counted and reported,
and nothing else changes. -/
def Language.scanMatch (l : Language) (F : Forest) (path : String)
    (source : List UInt8) (options : ExtractOptions) (s : Scan) (m : Match) :
    Scan :=
  match l.resolve F source options m with
  | .ok d => { s with definitions := s.definitions ++ [d] }
  | .error e =>
    { s with
      skipped := s.skipped + 1
      events := s.events ++ [skippedEvent path l.name e] }

/-- Takes matches in order. -/
def Language.scan (l : Language) (F : Forest) (path : String)
    (source : List UInt8) (options : ExtractOptions) (found : List Match) :
    Scan :=
  found.foldl (l.scanMatch F path source options) {}

/-- The outline of a source in a language. -/
def Language.outline (l : Language) (engine : Engine) (path : String)
    (source : List UInt8) (options : ExtractOptions) :
    Logged (Except StructureFault FileOutline) :=
  match engine.parse l.grammar source with
  | none => .silent (.error (.noTree path l.name))
  | some F =>
    let s :=
      l.scan F path source options (engine.run l.query l.grammar F)
    ⟨.ok { path := path, language := l.name, definitions := s.definitions },
      s.events ++
        [parsedEvent path l.name s.definitions.length s.skipped]⟩

/-- The outline of a file. The language is found before anything is
parsed. -/
def Registry.outline (r : Registry) (engine : Engine) (path : String)
    (source : List UInt8) (options : ExtractOptions) :
    Logged (Except StructureFault FileOutline) :=
  match r.forPath path with
  | .error e => .silent (.error e)
  | .ok l => l.outline engine path source options

end Outline
