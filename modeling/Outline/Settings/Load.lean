/-
Loading the settings of a run.

Four sources are laid over each other: the document of the user, the
document of the directory, environment variables, and overrides given
by the caller, who may also hand over a finished section. The result is
checked as one document, in which no unknown section is allowed. The
first issue is reported.
-/
import Outline.Settings.Check
import Outline.Settings.Environment

namespace Outline

-- ============================================================= overrides

/-- Finished settings that a caller hands over. -/
inductive ReadySettings where
  | output (s : LogOutput)
  | logging (s : LoggingSettings)
  | extraction (s : ExtractionSettings)
  | all (s : Settings)
deriving DecidableEq, Repr, Inhabited

/-- The settings as a message shows them. -/
def ReadySettings.toText : ReadySettings → String
  | .output s => " ".intercalate s.fieldTexts
  | .logging s => " ".intercalate s.fieldTexts
  | .extraction s => " ".intercalate s.fieldTexts
  | .all s => " ".intercalate s.fieldTexts

/-- The settings as a document. -/
def ReadySettings.toValue : ReadySettings → Value
  | .output s => s.toValue
  | .logging s => s.toValue
  | .extraction s => s.toValue
  | .all s => s.toValue

/-- The settings as a value in messages. Without a written form they stay
a document, which has none either. -/
def ReadySettings.shown (s : ReadySettings) : Value :=
  if s.toValue.isWritable then .text s.toText else s.toValue

/-- What stands for a section: a document value or finished settings. -/
inductive Override where
  | value (v : Value)
  | ready (s : ReadySettings)
deriving Repr, Inhabited

namespace Override

/-- The override as a value in messages. -/
def shown : Override → Value
  | .value v => v
  | .ready s => s.shown

/-- One override over another: mappings are merged, and everything else
replaces what is below. -/
def laidOver (below : Option Override) (above : Override) : Override :=
  match above, below with
  | .value (.map upper), some (.value (.map lower)) =>
    .value (.map (Entries.merge lower upper))
  | above, _ => above

end Override

/-- Sections by key, in order. -/
abbrev Layer := List (Key × Override)

namespace Layer

/-- The layer of a document. -/
def ofEntries (entries : Entries) : Layer :=
  entries.map fun (k, v) => (k, .value v)

/-- One layer over another. -/
def merge (lower upper : Layer) : Layer :=
  upper.foldl
    (fun out (k, o) => Keyed.put k (o.laidOver (out.lookup k)) out) lower

/-- The overrides of a caller: known sections come first. -/
def ofOverrides (given : List (String × Override)) : Layer :=
  let isKnown (name : String) : Bool :=
    name == "logging" || name == "extraction"
  let known := ["logging", "extraction"].filterMap fun name =>
    (given.lookup name).map fun o => (Key.text name, o)
  known ++ (given.filter fun (name, _) => !isKnown name).map
    fun (name, o) => (Key.text name, o)

end Layer

-- ================================================================= check

/-- Checks a section, or takes it as it is if it is finished. -/
def checkOverride {α : Type} (name expected : String) (fallback : α)
    (take? : ReadySettings → Option α) (check : Value → Checked α)
    (layer : Layer) : Checked α :=
  match layer.lookup (.text name) with
  | none => .passed fallback
  | some (.value v) => (check v).under name
  | some (.ready s) =>
    match take? s with
    | some a => .passed a
    | none =>
      (Checked.wrong (.sectionType expected) s.shown).under name

/-- The issues of sections that nobody knows. -/
def unknownSections (layer : Layer) : List Issue :=
  layer.filterMap fun (k, o) =>
    match k with
    | .text name =>
      if name == "logging" || name == "extraction" then none
      else some ⟨[name], .unknownField, o.shown⟩
    | _ => none

/-- Checks all sections; unknown ones come last. -/
def Layer.check (homes : Homes) (layer : Layer) : Checked Settings :=
  let logging := checkOverride "logging" "LoggingConfig" {}
    (fun s => match s with
      | .logging s => some s
      | _ => none)
    (LoggingSettings.check homes) layer
  let extraction := checkOverride "extraction" "ExtractionConfig" {}
    (fun s => match s with
      | .extraction s => some s
      | _ => none)
    ExtractionSettings.check layer
  let known := (logging.map Settings.mk).ap extraction
  match unknownSections layer with
  | [] => known
  | issues => (known.map fun s (_ : Unit) => s).ap (.failed issues)

-- ================================================================== load

/-- What ends a load with a first issue: its report, unless the value that
was found there has no written form. -/
def LoadFault.ofIssue (i : Issue) : LoadFault :=
  if i.found.isWritable then
    .reported (.invalid i.field i.found i.kind.message)
  else .raised .unwritable

/-- Where settings come from, and how their texts are read. -/
structure SettingsSources where
  files : FileSystem
  environment : Environment := []
  homes : Homes := {}
  /-- The reader of documents. -/
  reader : DocumentReader
  /-- The reader of variables that hold JSON. -/
  json : String → Reading
  /-- The document of the user. -/
  userDocument : String
  /-- The directory whose document counts; the current one if none is
  given. -/
  root : Option String := none

namespace SettingsSources

/-- The path of the document of a directory. -/
def directoryDocument (s : SettingsSources) : String :=
  let root := match s.root with
    | some r => LexicalPath.ofText r
    | none => { root := "/", parts := s.files.current }
  ((root.child ".codestruct").child "config.yaml").toText

/-- All sources laid over each other. -/
def layer (s : SettingsSources) (overrides : List (String × Override)) :
    Except LoadFault Layer := do
  let user ← SettingsDocument.read s.reader s.files s.userDocument
  let directory ←
    SettingsDocument.read s.reader s.files s.directoryDocument
  let environment ← s.environment.settings s.json
  return ((Layer.ofEntries (Entries.merge user directory)).merge
    ((Layer.ofEntries environment).merge (Layer.ofOverrides overrides)))

/-- The settings of a run. What passed the check is written out and
checked once more. -/
def load (s : SettingsSources) (overrides : List (String × Override)) :
    Except LoadFault Settings := do
  let layer ← s.layer overrides
  if layer.any fun (k, _) => k.text?.isNone then throw .keyNotText
  match layer.check s.homes with
  | .homeless => throw .homeless
  | .failed [] => throw (.changed [])
  | .failed (i :: _) => throw (.ofIssue i)
  | .passed settings =>
    match Settings.check s.homes settings.toValue with
    | .passed settings => return settings
    | .failed issues => throw (.changed issues)
    | .homeless => throw .homeless

end SettingsSources

end Outline
