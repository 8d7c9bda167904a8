/-
The registry: languages by name and by file extension.

Registering a pack loads its grammar and compiles its query. A pack
that fails is left out and remembered with its reason, unless the build
is strict. Two languages may not claim one extension.
-/
import Outline.Definition
import Outline.Keyed
import Outline.Language.Catalog
import Outline.Log.Event
import Outline.Path

namespace Outline

/-- A language that is ready for use. -/
structure Language where
  name : String
  grammar : Grammar
  query : Query
  extensions : List String
  definitionKinds : List (String × DefinitionKind)
  scopeRules : ScopeRules
deriving Repr, Inhabited

namespace Language

/-- Whether a node may be a definition of the language. -/
def tracks (l : Language) (F : Forest) : Option NodeId → Bool
  | none => false
  | some n => (l.definitionKinds.map (·.1)).contains (F.kind n)

end Language

/-- A match with its anchors and the scopes around its definition. -/
structure ProcessedMatch where
  pattern : Int
  anchors : Anchors
  enclosingType : Option NodeId := none
  enclosingFunction : Option NodeId := none
deriving DecidableEq, Repr, Inhabited

/-- Chooses the anchors of a match and, if asked to, the scopes. Scopes
are looked for from the parent of the definition. -/
def Language.process (l : Language) (F : Forest) (m : Match)
    (resolveScopes : Bool) : Except MatchFault ProcessedMatch :=
  if m.captures.isEmpty then .error (.emptyMatch m.pattern)
  else
    let anchors := Anchors.select (some (l.tracks F)) m.captures
    let around : Option NodeId :=
      if resolveScopes then
        (anchors.definition.bind (·.node)).bind F.parent
      else none
    .ok {
      pattern := m.pattern
      anchors := anchors
      enclosingType := around.bind fun p => F.enclosingType l.scopeRules (some p)
      enclosingFunction :=
        around.bind fun p => F.enclosingFunction l.scopeRules (some p) }

-- ======================================================== registration

/-- The logger of query compilation. -/
def queryLogger : String := "codestruct.structure.query"

/-- The logger of the registry. -/
def registryLogger : String := "codestruct.structure.registry"

/-- Takes what a query compiler answered. Its warnings are passed on
only if there is a query, and a reason may not be empty. -/
def acceptQuery (language : String) (advisories : List (String × String))
    (compiled : Except String Query) :
    Logged (Except StructureFault Query) :=
  match compiled with
  | .error reason =>
    .silent (.error (.queryRejected language
      (if reason.isEmpty then "unknown" else reason)))
  | .ok q =>
    ⟨.ok q, advisories.map fun (category, reason) =>
      { logger := queryLogger
        severity := .warning
        name := "query_advisory"
        fields := [("language", .text language), ("category", .text category),
          ("reason", .text reason)] }⟩

/-- Makes a language of a pack and its grammar. -/
def LanguagePack.withGrammar (pack : LanguagePack) (grammar : Grammar) :
    Except StructureFault Language :=
  match (acceptQuery pack.name [] pack.query.compile).result with
  | .error e => .error e
  | .ok query =>
    .ok {
      name := pack.name
      grammar := grammar
      query := query
      extensions := (pack.extensions.map Text.lower).eraseDups
      definitionKinds := pack.definitionKinds
      scopeRules := pack.scopeRules }

/-- Makes a language of a pack, if its grammar can be loaded. -/
def LanguagePack.register (grammars : Grammars) (pack : LanguagePack) :
    Except StructureFault Language :=
  match grammars pack.grammarModule pack.grammarFunction with
  | none => .error (.grammarUnavailable pack.name pack.grammarModule)
  | some grammar => pack.withGrammar grammar

/-- Languages by name and by extension, and those that failed. -/
structure Registry where
  byName : List (String × Language) := []
  byExtension : List (String × Language) := []
  failures : List (String × StructureFault) := []
deriving Repr, Inhabited

namespace Registry

/-- Claims extensions for a language; the first one that is taken
fails. -/
def claim (l : Language) :
    List String → List (String × Language) →
    Except StructureFault (List (String × Language))
  | [], table => .ok table
  | ext :: rest, table =>
    match table.lookup ext with
    | some owner => .error (.extensionTaken ext owner.name l.name)
    | none => claim l rest (table ++ [(ext, l)])

/-- Adds a language. -/
def add (r : Registry) (l : Language) : Except StructureFault Registry :=
  match claim l l.extensions r.byExtension with
  | .error e => .error e
  | .ok table =>
    .ok { r with byName := Keyed.put l.name l r.byName, byExtension := table }

/-- The registry of a list of languages. -/
def ofLanguages (languages : List Language)
    (failures : List (String × StructureFault)) :
    Except StructureFault Registry :=
  languages.foldlM add { failures := failures }

/-- The names of the languages. -/
def languages (r : Registry) : List String := r.byName.map (·.1)

/-- The extensions and their languages. -/
def extensions (r : Registry) : List (String × String) :=
  r.byExtension.map fun (ext, l) => (ext, l.name)

/-- Whether a language of this name is registered. -/
def contains (r : Registry) (name : String) : Bool :=
  (r.byName.lookup name).isSome

/-- Whether some language claims the extension of a path. -/
def supports (r : Registry) (path : String) : Bool :=
  (r.byExtension.lookup (extensionOf path)).isSome

/-- The language of a path. -/
def forPath (r : Registry) (path : String) : Except StructureFault Language :=
  match r.byExtension.lookup (extensionOf path) with
  | some l => .ok l
  | none => .error (.unsupportedPath path)

/-- The language of a name. -/
def forLanguage (r : Registry) (name : String) :
    Except StructureFault Language :=
  match r.byName.lookup name with
  | some l => .ok l
  | none => .error (.unknownLanguage name)

-- =============================================================== build

/-- What to register: all packs or those wanted, leaving failures out or
failing with the first. -/
structure BuildOptions where
  strict : Bool := false
  wanted : Option (List String) := none
deriving DecidableEq, Repr, Inhabited

/-- The wanted names that no pack has, sorted. -/
def unknownNames (packs : List LanguagePack) (wanted : List String) :
    List String :=
  (wanted.filter (fun n => !(packs.map (·.name)).contains n)).eraseDups.mergeSort
    (fun a b => a ≤ b)

/-- The packs that are wanted, in order. -/
def selectPacks (packs : List LanguagePack) :
    Option (List String) → List LanguagePack
  | none => packs
  | some wanted => packs.filter fun p => wanted.contains p.name

/-- The event of a pack that was left out. -/
def failureEvent (pack : String) (e : StructureFault) : Event :=
  match e with
  | .grammarUnavailable .. =>
    { logger := registryLogger
      severity := .warning
      name := "language_unavailable"
      fields := [("language", .text pack), ("reason", .text e.report.message)] }
  | _ =>
    { logger := registryLogger
      severity := .error
      name := "language_registration_failed"
      fields := [("language", .text pack), ("error", .text e.report.line)] }

/-- Languages and failures of the packs registered so far. -/
structure Progress where
  languages : List Language := []
  failures : List (String × StructureFault) := []
deriving Repr, Inhabited

/-- Registers packs in order. -/
def registerAll (grammars : Grammars) (strict : Bool) (done : Progress) :
    List LanguagePack → Logged (Except StructureFault Progress)
  | [] => .silent (.ok done)
  | pack :: rest =>
    match pack.register grammars with
    | .ok l =>
      registerAll grammars strict
        { done with languages := done.languages ++ [l] } rest
    | .error e =>
      if strict then .silent (.error e)
      else
        let others := registerAll grammars strict
          { done with failures := Keyed.put pack.name e done.failures } rest
        ⟨others.result, failureEvent pack.name e :: others.events⟩

/-- The event of a finished build. -/
def builtEvent (r : Registry) : Event :=
  { logger := registryLogger
    severity := .debug
    name := "registry_built"
    fields := [("languages", .int r.byName.length),
      ("extensions", .int r.byExtension.length),
      ("failed", .list (((r.failures.map (·.1)).mergeSort
        (fun a b => a ≤ b)).map .text))] }

/-- Builds a registry of packs. -/
def build (grammars : Grammars) (packs : List LanguagePack)
    (options : BuildOptions) : Logged (Except StructureFault Registry) :=
  let warnings : List Event :=
    ((options.wanted.map (unknownNames packs)).getD []).map fun name =>
      { logger := registryLogger
        severity := .warning
        name := "unknown_language_requested"
        fields := [("language", .text name)] }
  let registered :=
    registerAll grammars options.strict {}
      (selectPacks packs options.wanted)
  match registered.result with
  | .error e => ⟨.error e, warnings ++ registered.events⟩
  | .ok done =>
    match ofLanguages done.languages done.failures with
    | .error e => ⟨.error e, warnings ++ registered.events⟩
    | .ok r => ⟨.ok r, warnings ++ registered.events ++ [builtEvent r]⟩

end Registry

end Outline
