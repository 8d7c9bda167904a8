/-
Values of settings documents.

A settings file, an environment variable, a keyword override and the
details of an error all hold the same kind of data: scalars, lists and
mappings nested to any depth. Mappings keep the order in which their
keys were first given, because messages show it, and their keys may be
any scalar, because a document may say so. Keys that are equal as numbers
are one key, and it is spelled as it was first.

A document may also hold bytes, tuples and sets. What contains itself has
no finite value and is left out.
-/
import Outline.Keyed
import Outline.Number.Binary64

namespace Outline

/-- A day of the calendar. -/
structure Date where
  year : Nat
  month : Nat
  day : Nat
deriving DecidableEq, Repr, Inhabited

/-- A time of a day, with the distance to universal time in minutes if
the document gives one. -/
structure Timestamp where
  date : Date
  hour : Nat
  minute : Nat
  second : Nat
  micros : Nat
  offset : Option Int
deriving DecidableEq, Repr, Inhabited

/-- A scalar used as a key of a mapping. -/
inductive Key where
  | null
  | bool (b : Bool)
  | int (n : Int)
  | float (x : Binary64)
  | date (d : Date)
  | timestamp (t : Timestamp)
  | text (s : String)
  | bytes (bs : List UInt8)
deriving DecidableEq, Repr, Inhabited

/-- A collection of values that is no list. -/
inductive Grouping where
  | tuple
  | set
deriving DecidableEq, Repr, Inhabited

/-- A value of a document. -/
inductive Value where
  | null
  | bool (b : Bool)
  | int (n : Int)
  | float (x : Binary64)
  | date (d : Date)
  | timestamp (t : Timestamp)
  | text (s : String)
  | bytes (bs : List UInt8)
  | list (items : List Value)
  | group (kind : Grouping) (items : List Value)
  | map (entries : List (Key × Value))
deriving Repr, Inhabited

/-- The entries of a mapping, keys in order of first appearance. -/
abbrev Entries := List (Key × Value)

instance : Coe String Key := ⟨Key.text⟩

namespace Key

/-- The key a scalar value is, if it can be one. -/
def ofValue? : Value → Option Key
  | .null => some .null
  | .bool b => some (.bool b)
  | .int n => some (.int n)
  | .float x => some (.float x)
  | .date d => some (.date d)
  | .timestamp t => some (.timestamp t)
  | .text s => some (.text s)
  | .bytes bs => some (.bytes bs)
  | .list _ => none
  | .group _ _ => none
  | .map _ => none

/-- The value a key is. -/
def toValue : Key → Value
  | .null => .null
  | .bool b => .bool b
  | .int n => .int n
  | .float x => .float x
  | .date d => .date d
  | .timestamp t => .timestamp t
  | .text s => .text s
  | .bytes bs => .bytes bs

/-- The text of a key that is a text. -/
def text? : Key → Option String
  | .text s => some s
  | _ => none

/-- A key up to equality of numbers: truth values count as zero and one,
and a number without a fraction as its integer. -/
def canonical : Key → Key
  | .bool b => .int (if b then 1 else 0)
  | .float x =>
    match x.toInt? with
    | some n => .int n
    | none => .float x
  | k => k

end Key

namespace Entries

/-- The value under a key. -/
def get? (entries : Entries) (key : Key) : Option Value :=
  entries.lookup key

/-- The value under the first key that is equal as a number. -/
def value? (entries : Entries) (key : Key) : Option Value :=
  (entries.find? fun (k, _) => k.canonical = key.canonical).map (·.2)

/-- Puts a value under the first key that is equal as a number, or under
the key itself. -/
def put (entries : Entries) (key : Key) (value : Value) : Entries :=
  match entries.find? fun (k, _) => k.canonical = key.canonical with
  | some (k, _) => Keyed.put k value entries
  | none => Keyed.put key value entries

/-- The entries of a list of pairs in which a later pair replaces the
value of an earlier one. -/
def ofList (pairs : List (Key × Value)) : Entries :=
  pairs.foldl (fun entries (k, v) => Keyed.put k v entries) []

/-- The keys in order. -/
def keys (entries : Entries) : List Key :=
  entries.map (·.1)

/-- The entries with their keys as they are compared. -/
abbrev canonical (entries : Entries) : Entries :=
  entries.map fun e => (e.1.canonical, e.2)

end Entries

namespace Value

/-- Whether the value is a mapping. -/
def isMap : Value → Bool
  | .map _ => true
  | _ => false

/-- The entries of a mapping. -/
def entries? : Value → Option Entries
  | .map es => some es
  | _ => none

/-- The value under a text key of a mapping. -/
def field? (v : Value) (name : String) : Option Value :=
  v.entries?.bind (Entries.get? · (.text name))

/-- A mapping with text keys. -/
def object (fields : List (String × Value)) : Value :=
  .map (fields.map fun (k, v) => (.text k, v))

/-- Null for nothing. -/
def ofOption : Option Value → Value
  | some v => v
  | none => .null

/-- A text, or null for nothing. -/
def ofText? (s : Option String) : Value :=
  match s with
  | some s => .text s
  | none => .null

/-- A value in which no mapping has a key twice. -/
inductive Distinct : Value → Prop where
  | scalar {v : Value} : (Key.ofValue? v).isSome = true → Distinct v
  | list {items : List Value} : (∀ v ∈ items, Distinct v) →
      Distinct (.list items)
  | group {kind : Grouping} {items : List Value} :
      (∀ v ∈ items, Distinct v) → Distinct (.group kind items)
  | map {entries : Entries} : (Keyed.keys entries.canonical).Nodup →
      (∀ e ∈ entries, Distinct e.2) → Distinct (.map entries)

/-- Whether the value counts as nothing when a document is read: null,
false, zero, and empty texts, bytes and collections. -/
def isEmptyDocument : Value → Bool
  | .null => true
  | .bool b => !b
  | .int n => n == 0
  | .float (.finite _ m _) => m == 0
  | .float _ => false
  | .date _ => false
  | .timestamp _ => false
  | .text s => s.isEmpty
  | .bytes bs => bs.isEmpty
  | .list items => items.isEmpty
  | .group _ items => items.isEmpty
  | .map entries => entries.isEmpty

end Value

end Outline
