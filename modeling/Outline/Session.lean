/-
A run of the program, seen from outside.

What a run leaves behind is text on two streams and changes to files.
The state of logging goes with them, because every event may end in any
of the three.
-/
import Outline.Log.Router
import Outline.Text.Utf8

namespace Outline

/-- What a run of the program leaves behind: files, the text of the two
streams, and the state of routing. `clock` is the text of the time. -/
structure Session where
  files : FileSystem := {}
  router : Router := {}
  stdout : String := ""
  stderr : String := ""
  clock : String := "<time>"
deriving Repr, Inhabited

namespace Session

/-- Writes a text. -/
def write (s : Session) (d : Destination) (text : String) : Session :=
  match d with
  | .stdout => { s with stdout := s.stdout ++ text }
  | .stderr => { s with stderr := s.stderr ++ text }
  | .file p => { s with files := s.files.append p (Utf8.encode text) }

/-- Carries out deliveries in order. -/
def carry (s : Session) (deliveries : List Delivery) : Session :=
  deliveries.foldl (fun s d => s.write d.destination (d.line ++ "\n")) s

/-- Logs an event. -/
def log (s : Session) (e : Event) : Session :=
  s.carry (s.router.event s.clock e)

/-- Logs events in order. -/
def logAll (s : Session) (events : List Event) : Session :=
  events.foldl log s

/-- Opens the destination of an output. A file is opened for writing at
its end, and its directory is made if it is missing. -/
def openDestination (files : FileSystem) (destination : String) :
    Except OsFault (Destination × FileSystem) :=
  if destination == "stdout" then .ok (.stdout, files)
  else if destination == "stderr" then .ok (.stderr, files)
  else
    let path := LexicalPath.ofText destination
    match files.makeDirectory (FileSystem.parentOf path)
        (path.parts.length + 1) with
    | .error e => .error e
    | .ok files =>
      match files.openForAppend (FileSystem.withoutDots path) with
      | .error e => .error e
      | .ok (p, files) => .ok (.file p, files)

/-- Opens outputs in order, up to the first that cannot be opened. -/
def openAll (level : Int) : List LogOutput → Session → Option OsFault × Session
  | [], s => (none, s)
  | o :: rest, s =>
    match openDestination s.files o.destination with
    | .error e => (some e, s)
    | .ok (d, files) =>
      let threshold : Int := (o.level.map fun l => (l.number : Int)).getD level
      let sink : Sink := ⟨o.format, d, threshold⟩
      openAll level rest
        { s with
          files := files
          router := { s.router with sinks := s.router.sinks ++ [sink] } }

/-- Sets up routing as settings say. The old sinks are gone even if a
new one cannot be opened. -/
def configure (s : Session) (settings : LoggingSettings) :
    Option OsFault × Session :=
  let level : Int := settings.level.number
  openAll level settings.outputs
    { s with
      router :=
        { s.router with level := level, sinks := [], configured := true } }

end Session

end Outline
