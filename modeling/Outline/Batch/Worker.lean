/-
A worker: a process that outlines one file after the other.

It starts from settings as documents, so that it needs nothing from the
process that started it. Until it has started it refuses files. What a
failed start has changed stays changed.
-/
import Outline.Batch.FileResult
import Outline.Session
import Outline.Settings.Check

namespace Outline

/-- What a program has to work with: the grammars that can be loaded, the
languages it knows, its parser, the homes of users, and an id for a
request that has none. -/
structure Toolbox where
  grammars : Grammars
  packs : List LanguagePack
  engine : Engine
  homes : Homes
  freshId : String

/-- The state of a worker. -/
structure Worker where
  session : Session := {}
  settings : Option ExtractionSettings := none
  registry : Option Registry := none
deriving Repr, Inhabited

/-- Why a worker does not start or has no result. -/
inductive WorkerFault where
  | issues (found : List Issue)
  | homeless
  | destination (e : OsFault)
  | registry (e : StructureFault)
  | notReady
  | unnameable
  | endless
deriving Repr, Inhabited

namespace Worker

/-- Builds the registry that settings ask for. -/
def buildRegistry (tools : Toolbox) (settings : ExtractionSettings) :
    Logged (Except StructureFault Registry) :=
  Registry.build tools.grammars tools.packs
    { strict := settings.strictQueries, wanted := settings.languages }

/-- Takes up settings and builds the registry. -/
def equip (tools : Toolbox) (settings : Value) (w : Worker) :
    Except WorkerFault Unit × Worker :=
  match ExtractionSettings.check settings with
  | .failed found => (.error (.issues found), w)
  | .homeless => (.error .homeless, w)
  | .passed settings =>
    let built := buildRegistry tools settings
    let w := { w with
      settings := some settings
      session := w.session.logAll built.events }
    match built.result with
    | .error e => (.error (.registry e), w)
    | .ok r => (.ok (), { w with registry := some r })

/-- Starts a worker: logging first, then the id of the request if there
is one, then the settings. -/
def start (tools : Toolbox) (settings logging : Value) (id : Option String)
    (w : Worker) : Except WorkerFault Unit × Worker :=
  match LoggingSettings.check tools.homes logging with
  | .failed found => (.error (.issues found), w)
  | .homeless => (.error .homeless, w)
  | .passed logging =>
    match w.session.configure logging with
    | (some e, s) => (.error (.destination e), { w with session := s })
    | (none, s) =>
      let s := match id with
        | some id =>
          { s with router := (s.router.setId (some id) tools.freshId).2 }
        | none => s
      equip tools settings { w with session := s }

/-- Outlines a file. -/
def extract (tools : Toolbox) (path : String) (w : Worker) :
    Except WorkerFault FileResult × Worker :=
  match w.registry, w.settings with
  | some r, some settings =>
    match w.session.files.access path with
    | .unnameable => (.error .unnameable, w)
    | .endless => (.error .endless, w)
    | .state s =>
      let done := r.extractFile tools.engine settings path s
      (.ok done.result,
        { w with session := w.session.logAll done.events })
  | _, _ => (.error .notReady, w)

end Worker

end Outline
