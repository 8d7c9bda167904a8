/-
Log records and the two ways to write them.

A record is what an output sees: an ordered list of fields, with the
name of the event, the id of the request, the logger, the level and the
time among them. A field that the event gives itself keeps its place;
the others follow in that order.

As JSON a record is one line with its fields in order. On a console it
is a time, a level, the name of the event, the logger, and the remaining
fields sorted by their names.
-/
import Outline.Log.Event
import Outline.Value.Json
import Outline.Value.Written

namespace Outline

/-- A record: its fields in order, and the number of its level. -/
structure Record where
  fields : List (String × Value)
  level : Int
deriving Repr, Inhabited

namespace Record

/-- Sets a field that is not there yet. -/
def addField (name : String) (value : Option String)
    (fields : List (String × Value)) : List (String × Value) :=
  match value with
  | none => fields
  | some s =>
    if (fields.lookup name).isSome then fields
    else fields ++ [(name, .text s)]

/-- The record of fields, with what every record carries. -/
def complete (fields : List (String × Value)) (requestId : Option String)
    (logger label time : String) (level : Int) : Record :=
  let fields := addField "request_id" requestId fields
  let fields := Keyed.put "logger" (.text logger) fields
  let fields := Keyed.put "level" (.text label) fields
  { fields := Keyed.put "timestamp" (.text time) fields, level := level }

/-- The record of an event. -/
def ofEvent (e : Event) (requestId : Option String) (time : String) : Record :=
  complete (Keyed.put "event" (.text e.name) e.fields) requestId e.logger
    e.severity.label time e.severity.number

/-- The label of a level number that may lie between the severities. -/
def labelOf (level : Int) : String :=
  match Severity.all.find? fun s => (s.number : Int) == level with
  | some s => s.label
  | none => s!"level {level}"

/-- The record of a message from outside, at any level. -/
def ofMessage (logger : String) (level : Int) (message : String)
    (requestId : Option String) (time : String) : Record :=
  complete [("event", .text message)] requestId
    (if logger.isEmpty then "root" else logger) (labelOf level) time level

/-- A field of the record. -/
def field? (r : Record) (name : String) : Option Value := r.fields.lookup name

-- =============================================================== written

/-- The record as one line of JSON. -/
def jsonLine (r : Record) : String := Json.line (.object r.fields)

/-- The record as a mapping in messages. -/
def mappingLine (r : Record) : String := (Value.object r.fields).quoted

/-- A text with spaces behind it, up to a width. -/
def padTo (width : Nat) (s : String) : String :=
  s ++ String.ofList (List.replicate (width - s.length) ' ')

/-- A field value on a console: a text stands bare unless it has blanks,
quotes or an equals sign. -/
def consoleValue (v : Value) : String :=
  match v with
  | .text s =>
    if s.toList.any (" \t=\r\n\"'".toList.contains ·) then Text.quoted s else s
  | v => v.quoted

/-- The width of level names on a console. -/
def levelWidth : Nat := 9

/-- The width of event names on a console. -/
def eventWidth : Nat := 30

/-- The columns of a console line before the fields. -/
def columns : List (String × (Value → String)) :=
  [("timestamp", Value.toText),
    ("level", fun v => "[" ++ padTo levelWidth v.toText ++ "]"),
    ("event", fun v => padTo eventWidth v.toText),
    ("logger", fun v => "[" ++ v.toText ++ "]"),
    ("logger_name", fun v => "[" ++ v.toText ++ "]")]

/-- A text without the spaces at its end. -/
def withoutEndSpaces (s : String) : String :=
  String.ofList ((s.toList.reverse.dropWhile (· == ' ')).reverse)

/-- The record as one line for a console. -/
def consoleLine (r : Record) : String :=
  let first := columns.filterMap fun (name, write) =>
    (r.field? name).map write
  let others := (r.fields.filter fun (name, _) =>
    (columns.lookup name).isNone).mergeSort fun a b => a.1 ≤ b.1
  withoutEndSpaces (" ".intercalate
    (first ++ others.map fun (name, v) => name ++ "=" ++ consoleValue v))

end Record

end Outline
