/-
A run of the program.

A run reads the command line up to the command, loads the settings, sets
up logging, reads the rest and does the work. It ends with a status, or
with a crash where nothing in the program takes care of a failure.
-/
import Outline.Batch.Run
import Outline.Command.Arguments
import Outline.Command.Report
import Outline.Settings.Load

namespace Outline

/-- What a run finds when it starts. `print` prints what is shown,
`freshId` is the id of its request, `schedule` the order of things in its
pools, and `clock` the text of the time. -/
structure World where
  program : String
  sources : SettingsSources
  grammars : Grammars
  packs : List LanguagePack
  engine : Engine
  print : Printer
  freshId : String
  schedule : Batch.Schedule := Batch.quickRounds
  clock : String := "<time>"

namespace World

/-- The tools of the run. -/
def tools (w : World) : Toolbox :=
  { grammars := w.grammars
    packs := w.packs
    engine := w.engine
    homes := w.sources.homes
    freshId := w.freshId }

end World

/-- A failure that nobody takes care of. -/
inductive Crash where
  | settings (fault : LoadFault)
  | destination (fault : OsFault)
  | os (fault : OsFault)
  | registry (fault : StructureFault)
  | batch (fault : BatchFault)
  | raised (e : Raised)
  | unnameable
deriving Repr, Inhabited

/-- What was raised, where that is the failure. -/
def Crash.raised? : Crash → Option Raised
  | .raised e => some e
  | _ => none

@[simp]
theorem Crash.raised?_eq_some_iff {c : Crash} {e : Raised} :
    c.raised? = some e ↔ c = .raised e := by
  cases c <;> simp [raised?]

/-- How a run ends. -/
structure Finish where
  session : Session
  status : Nat := 0
  crash : Option Crash := none
deriving Repr, Inhabited

namespace Finish

/-- The end of a run that crashes. -/
def crashed (s : Session) (c : Crash) : Finish :=
  { session := s, status := 1, crash := some c }

/-- The end of a run that has nothing to do. -/
def stopped (program : String) (s : Session) : Stop → Finish
  | .usage page fault =>
    { session := s.write .stderr
        (page.usage program ++ "Try '" ++ page.words program ++
          " --help' for help.\n\nError: " ++ fault.message ++ "\n")
      status := 2 }
  | .page page => { session := s.write .stdout (page.help program) }
  | .version => { session := s.write .stdout versionLine }
  | .noArguments =>
    { session := s.write .stderr (Page.top.help program), status := 2 }
  | .unnameable => crashed s .unnameable

end Finish

-- ================================================================ output

/-- Writes what is shown, up to the first part that cannot be printed. -/
def Session.show (s : Session) (print : Printer) :
    List Shown → Except Crash Unit × Session
  | [] => (.ok (), s)
  | part :: rest =>
    match print part with
    | .error e => (.error (.raised e), s)
    | .ok text => Session.show (s.write .stdout text) print rest

/-- Writes data over several lines. -/
def Session.writeData (s : Session) (v : Value) : Session :=
  s.write .stdout (Json.indented v ++ "\n")

-- =============================================================== extract

/-- The path that steps lead to. -/
def LexicalPath.descend (p : LexicalPath) (steps : List String) :
    LexicalPath :=
  { p with parts := p.parts ++ steps }

/-- Why the directories of a search cannot all be listed. One that is not
permitted is passed over. -/
def unlisted? (files : FileSystem) (path : LexicalPath) (place : FilePath) :
    List (List String) → Option OsFault
  | [] => none
  | steps :: rest =>
    let p := place ++ steps
    match files.entry? p, files.link? p, files.refusal? .list p with
    | some .directory, none, some cause =>
      if cause.isPermission then unlisted? files path place rest
      else some ⟨cause, (path.descend steps).toText⟩
    | _, _, _ => unlisted? files path place rest

/-- Of the paths below a path those that lead to a file that some language
claims. -/
def claimed (files : FileSystem) (r : Registry) (path : LexicalPath) :
    List (List String) → Except OsFault (List String)
  | [] => .ok []
  | steps :: rest =>
    let child := (path.descend steps).toText
    match files.lookup child with
    | .error e =>
      if e.cause.isAbsence then claimed files r path rest else .error e
    | .ok entry =>
      match claimed files r path rest with
      | .error e => .error e
      | .ok more =>
        match entry with
        | .file _ => .ok (if r.supports child then child :: more else more)
        | _ => .ok more

/-- The files that a path stands for: those below a directory that some
language claims, in order, or the path itself. -/
def sourcesOf (files : FileSystem) (r : Registry) (path : String) :
    Except OsFault (List String) :=
  let path := LexicalPath.ofText path
  match files.find path.toText with
  | .error e =>
    if e.cause.isAbsence then .ok [path.toText] else .error e
  | .ok (place, .directory) =>
    let found := (files.below place).filter (files.seen place)
    match unlisted? files path place ([] :: found) with
    | some e => .error e
    | none => claimed files r path found
  | .ok _ => .ok [path.toText]

/-- The files that paths stand for, one path after the other. -/
def sourcesOfAll (files : FileSystem) (r : Registry) :
    List String → Except OsFault (List String)
  | [] => .ok []
  | path :: rest =>
    match sourcesOf files r path with
    | .error e => .error e
    | .ok sources => (sourcesOfAll files r rest).map (sources ++ ·)

/-- The settings of a request: its flags add to them. -/
def ExtractRequest.settings (q : ExtractRequest) (s : ExtractionSettings) :
    ExtractionSettings :=
  { s with
    includeContent := q.includeContent || s.includeContent
    resolveScopes := q.scopes || s.resolveScopes
    maxWorkers := q.workers.getD s.maxWorkers }

/-- The logger of `extract`. -/
def extractLogger : String := "codestruct.cli.extract"

/-- The event before files are outlined. -/
def extractStartEvent (files : Nat) (workers : Int) : Event :=
  { logger := extractLogger
    severity := .debug
    name := "extract_start"
    fields := [("files", .int files), ("workers", .int workers)] }

/-- The event after files are outlined. -/
def extractDoneEvent (files failed : Nat) : Event :=
  { logger := extractLogger
    severity := .debug
    name := "extract_done"
    fields := [("files", .int files), ("failed", .int failed)] }

/-- The number of results that are reports. -/
def failedCount (results : List FileResult) : Nat :=
  (results.filter fun r => !r.ok).length

/-- Writes results and ends the run: the status is one if a file
failed. -/
def finishExtract (print : Printer) (json scopes : Bool)
    (results : List FileResult) (s : Session) : Finish :=
  let shown :=
    if json then
      (.ok (), s.writeData (.list (results.map FileResult.toValue)))
    else s.show print (results.flatMap (FileResult.shown scopes))
  match shown with
  | (.error c, s) => .crashed s c
  | (.ok (), s) =>
    let failed := failedCount results
    { session := s.log (extractDoneEvent results.length failed)
      status := if failed = 0 then 0 else 1 }

/-- Outlines the files of a request. -/
def runExtract (w : World) (settings : Settings) (q : ExtractRequest)
    (s : Session) : Finish :=
  let extraction := q.settings settings.extraction
  if extraction.maxWorkers < 1 then
    .stopped w.program s (.usage (.command .extract) .tooFewWorkers)
  else
    let s := { s with router := (s.router.setId none w.freshId).2 }
    let built := Worker.buildRegistry w.tools extraction
    let s := s.logAll built.events
    match built.result with
    | .error e => .crashed s (.registry e)
    | .ok r =>
      match sourcesOfAll s.files r q.paths with
      | .error e => .crashed s (.os e)
      | .ok paths =>
        let s := s.log
          (extractStartEvent paths.length extraction.maxWorkers)
        let done := Batch.extractFiles w.tools s.files (some r) extraction
          settings.logging s.router.requestId paths w.schedule
        let s := s.logAll done.events
        match done.result with
        | .error e => .crashed s (.batch e)
        | .ok results =>
          finishExtract w.print q.json extraction.resolveScopes results s

-- ============================================================= languages

/-- Lists the languages. -/
def runLanguages (w : World) (settings : Settings) (json : Bool)
    (s : Session) : Finish :=
  let built := Worker.buildRegistry w.tools settings.extraction
  let s := s.logAll built.events
  match built.result with
  | .error e => .crashed s (.registry e)
  | .ok r =>
    if json then { session := s.writeData r.toValue }
    else
      match s.show w.print [r.shown] with
      | (.error c, s) => .crashed s c
      | (.ok (), s) => { session := s }

-- =================================================================== run

/-- Does the work of a command, once logging is set up. -/
def runCommand (w : World) (settings : Settings) (i : Invocation)
    (s : Session) : Finish :=
  match i.command with
  | .extract =>
    match ExtractRequest.read s.files i.words with
    | .error stop => .stopped w.program s stop
    | .ok q => runExtract w settings q s
  | .languages =>
    match readLanguages i.words with
    | .error stop => .stopped w.program s stop
    | .ok json => runLanguages w settings json s

/-- The settings of an invocation: a verbose one logs everything. -/
def Invocation.settings (i : Invocation) (s : Settings) : Settings :=
  if i.verbose then { s with logging := { s.logging with level := .debug } }
  else s

/-- A run of the program. -/
def World.run (w : World) (words : List String) : Finish :=
  let s : Session := { files := w.sources.files, clock := w.clock }
  match Invocation.read words with
  | .error stop => .stopped w.program s stop
  | .ok i =>
    match w.sources.load [] with
    | .error (.reported fault) =>
      { session := s.write .stderr ("Error: " ++ fault.report.line ++ "\n")
        status := 1 }
    | .error fault => .crashed s (.settings fault)
    | .ok settings =>
      let settings := i.settings settings
      match s.configure settings.logging with
      | (some fault, s) => .crashed s (.destination fault)
      | (none, s) => runCommand w settings i s

end Outline
