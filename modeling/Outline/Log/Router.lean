/-
Where records go.

A configuration sets a level and a list of sinks. An event reaches a
sink if it is at least as serious as both the level and the threshold of
the sink. A new configuration replaces all sinks. Without any sink,
warnings and worse go to the error stream as they are; before the first
configuration events go to the output stream.
-/
import Outline.Files.Basic
import Outline.Log.Record
import Outline.Settings.Basic

namespace Outline

-- =============================================================== streams

/-- Where lines are written. -/
inductive Destination where
  | stdout
  | stderr
  | file (path : FilePath)
deriving DecidableEq, Repr, Inhabited

/-- An output that is open: how it writes, where to, and from which
level on. -/
structure Sink where
  format : LogFormat
  destination : Destination
  threshold : Int
deriving DecidableEq, Repr, Inhabited

/-- A line for a destination. -/
structure Delivery where
  destination : Destination
  line : String
deriving DecidableEq, Repr, Inhabited

-- ================================================================ router

/-- The state of routing: the level and the sinks of the latest
configuration, whether there was one, and the id of the request. -/
structure Router where
  level : Int := 30
  sinks : List Sink := []
  configured : Bool := false
  requestId : Option String := none
deriving DecidableEq, Repr, Inhabited

namespace Router

/-- The text of a record in a format. -/
def render (format : LogFormat) (r : Record) : String :=
  match format with
  | .json => r.jsonLine
  | .console => r.consoleLine

/-- Whether a sink takes a record. -/
def takes (router : Router) (sink : Sink) (r : Record) : Bool :=
  router.level ≤ r.level && sink.threshold ≤ r.level

/-- The deliveries of a record to the sinks, in their order. -/
def deliver (router : Router) (r : Record) : List Delivery :=
  (router.sinks.filter fun s => router.takes s r).map fun s =>
    ⟨s.destination, render s.format r⟩

/-- The level from which on records without any sink are shown. -/
def lastResort : Int := 30

/-- What happens to a record that no sink is there for. -/
def unrouted (router : Router) (r : Record) (line : String) :
    List Delivery :=
  if router.level ≤ r.level && lastResort ≤ r.level then [⟨.stderr, line⟩]
  else []

/-- The deliveries of an event. -/
def event (router : Router) (time : String) (e : Event) : List Delivery :=
  if router.configured then
    let r := Record.ofEvent e router.requestId time
    if router.sinks.isEmpty then router.unrouted r r.mappingLine
    else router.deliver r
  else
    let r := Record.ofEvent e router.requestId time
    let shown := { r with fields := r.fields.filter (·.1 != "logger") }
    [⟨.stdout, shown.consoleLine⟩]

/-- The deliveries of a message from outside. A level that is not
positive is never logged. -/
def message (router : Router) (time logger : String) (level : Int)
    (text : String) : List Delivery :=
  if level ≤ 0 then []
  else
    let r := Record.ofMessage logger level text router.requestId time
    if router.sinks.isEmpty then router.unrouted r text else router.deliver r

-- ========================================================== request ids

/-- Sets the id of the request; an empty one counts as none. Where there
is none, a `fresh` one takes its place. -/
def setId (router : Router) (id : Option String) (fresh : String) :
    String × Router :=
  let id := match id with
    | some s => if s.isEmpty then fresh else s
    | none => fresh
  (id, { router with requestId := some id })

/-- Forgets the id of the request. -/
def clearId (router : Router) : Router := { router with requestId := none }

end Router

-- ================================================================ levels

/-- The names of levels and their numbers, the old names among them. -/
def levelNames : List (String × Int) :=
  [("CRITICAL", 50), ("FATAL", 50), ("ERROR", 40), ("WARN", 30),
    ("WARNING", 30), ("INFO", 20), ("DEBUG", 10), ("NOTSET", 0)]

/-- A capital letter; two letters outside ASCII have capitals inside. -/
def capital (c : Char) : Char :=
  if c == 'ı' then 'I' else if c == 'ſ' then 'S' else c.toUpper

/-- The number of a level name in any case, or the default. -/
def levelNumber (name : Option String) (fallback : Int) : Int :=
  match name with
  | none => fallback
  | some s =>
    (levelNames.lookup (String.ofList (s.toList.map capital))).getD fallback

/-- The name of the least severity that a level lets through, for
processes that start with it. -/
def levelNameAbove (level : Int) : Severity :=
  ([Severity.debug, .info, .warning, .error].find?
    fun s => level ≤ (s.number : Int)).getD .critical

end Outline
