/-
The written form of values in messages.

Inside a list or a mapping a text is quoted; on its own it stands bare.
Lists are in brackets, mappings and sets in braces, tuples in parentheses,
and the three constants have capital initials. An integer has a written
form only if it has no more than 4300 digits.
-/
import Outline.Number.Shortest
import Outline.Text.Quoted
import Outline.Value.Basic

namespace Outline

/-- A number padded with zeros to a width. -/
def padded (width n : Nat) : String :=
  let digits := toString n
  String.ofList (List.replicate (width - digits.length) '0') ++ digits

/-- A date in year-month-day order. -/
def Date.toText (d : Date) : String :=
  padded 4 d.year ++ "-" ++ padded 2 d.month ++ "-" ++ padded 2 d.day

/-- The distance to universal time as hours and minutes. -/
def offsetText (minutes : Int) : String :=
  (if minutes < 0 then "-" else "+") ++ padded 2 (minutes.natAbs / 60) ++
    ":" ++ padded 2 (minutes.natAbs % 60)

/-- A time with its date; a fraction of a second is shown if there is
one. -/
def Timestamp.toText (t : Timestamp) : String :=
  t.date.toText ++ " " ++ padded 2 t.hour ++ ":" ++ padded 2 t.minute ++
    ":" ++ padded 2 t.second ++
    (if t.micros = 0 then "" else "." ++ padded 6 t.micros) ++
    (match t.offset with
      | some m => offsetText m
      | none => "")

/-- The quoted form of a date, as the call that makes it. -/
def Date.quoted (d : Date) : String :=
  s!"datetime.date({d.year}, {d.month}, {d.day})"

/-- The quoted form of a time, as the call that makes it. -/
def Timestamp.quoted (t : Timestamp) : String :=
  let d := t.date
  let parts := [d.year, d.month, d.day, t.hour, t.minute]
  let seconds :=
    if t.micros ≠ 0 then [t.second, t.micros]
    else if t.second ≠ 0 then [t.second]
    else []
  let zone := match t.offset with
    | none => []
    | some 0 => ["tzinfo=datetime.timezone.utc"]
    | some m =>
      let delta :=
        if m < 0 then s!"days=-1, seconds={86400 + m * 60}"
        else s!"seconds={m * 60}"
      ["tzinfo=datetime.timezone(datetime.timedelta(" ++ delta ++ "))"]
  "datetime.datetime(" ++
    ", ".intercalate ((parts ++ seconds).map toString ++ zone) ++ ")"

/-- The name of a truth value. -/
def boolText (b : Bool) : String :=
  if b then "True" else "False"

/-- The quoted form of a key. -/
def Key.quoted : Key → String
  | .null => "None"
  | .bool b => boolText b
  | .int n => toString n
  | .float x => x.toText
  | .date d => d.quoted
  | .timestamp t => t.quoted
  | .text s => Text.quoted s
  | .bytes bs => Text.quotedBytes bs

/-- The form of a collection that is no list, by the forms of its
items. -/
def Grouping.around (kind : Grouping) (items : List String) : String :=
  match kind, items with
  | .tuple, [a] => "(" ++ a ++ ",)"
  | .tuple, items => "(" ++ ", ".intercalate items ++ ")"
  | .set, [] => "set()"
  | .set, items => "\x7b" ++ ", ".intercalate items ++ "\x7d"

mutual

/-- The form of a value inside another one: texts are quoted. -/
def Value.quoted : Value → String
  | .null => "None"
  | .bool b => boolText b
  | .int n => toString n
  | .float x => x.toText
  | .date d => d.quoted
  | .timestamp t => t.quoted
  | .text s => Text.quoted s
  | .bytes bs => Text.quotedBytes bs
  | .group kind items => kind.around (Value.quotedItems items)
  | .list items => "[" ++ ", ".intercalate (Value.quotedItems items) ++ "]"
  | .map entries =>
    "\x7b" ++ ", ".intercalate (Value.quotedEntries entries) ++ "\x7d"

/-- The forms of the items of a list. -/
def Value.quotedItems : List Value → List String
  | [] => []
  | v :: rest => v.quoted :: Value.quotedItems rest

/-- The forms of the entries of a mapping. -/
def Value.quotedEntries : List (Key × Value) → List String
  | [] => []
  | (k, v) :: rest =>
    (k.quoted ++ ": " ++ v.quoted) :: Value.quotedEntries rest

end

/-- The form of a value on its own: a text stands bare. -/
def Value.toText : Value → String
  | .text s => s
  | .date d => d.toText
  | .timestamp t => t.toText
  | v => v.quoted

-- ============================================================= written

/-- The bound on integers that have a written form, and that are read from
one: they have at most 4300 digits. -/
def writtenBound : Nat := Nat.pow 10 4300

/-- What is said of an integer beyond that bound. -/
def unwritableReason : String :=
  "Exceeds the limit (4300 digits) for integer string conversion; " ++
    "use sys.set_int_max_str_digits() to increase the limit"

/-- Whether a key has a written form. -/
def Key.isWritable : Key → Bool
  | .int n => n.natAbs < writtenBound
  | _ => true

mutual

/-- Whether a value has a written form. -/
def Value.isWritable : Value → Bool
  | .int n => n.natAbs < writtenBound
  | .list items => Value.areWritable items
  | .group _ items => Value.areWritable items
  | .map entries => Value.entriesAreWritable entries
  | _ => true

/-- Whether all items have a written form. -/
def Value.areWritable : List Value → Bool
  | [] => true
  | v :: rest => v.isWritable && Value.areWritable rest

/-- Whether all entries have a written form. -/
def Value.entriesAreWritable : List (Key × Value) → Bool
  | [] => true
  | (k, v) :: rest =>
    k.isWritable && v.isWritable && Value.entriesAreWritable rest

end

end Outline
