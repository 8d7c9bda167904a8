/-
The value of a document.

A node becomes a value by its tag, or by its form if it has none. A key
`<<` lays other mappings under its own; a later entry replaces the value
of an earlier one with the same key, and keys that are equal as numbers
are the same key. Tags make bytes of a text, a set of the keys of a
mapping, and a list of pairs of a list of mappings. Values are built level
by level, so of several faults the one nearest to the top of the document
is reported, and of those on one level the first.
-/
import Outline.Text.Alphanumeric
import Outline.Yaml.Form
import Outline.Yaml.Node

namespace Outline

namespace Yaml

-- ============================================================== scalars

/-- Drops the mark of a base, which may stand before its digits. -/
def withoutBaseMark (base : Nat) : List Char → List Char
  | '0' :: c :: rest =>
    let mark := match base with
      | 2 => 'b'
      | 8 => 'o'
      | 16 => 'x'
      | _ => '0'
    if base ≠ 10 && c.toLower == mark then rest else '0' :: c :: rest
  | cs => cs

/-- The digits of a base as a number. -/
def digitsIn? (base : Nat) (cs : List Char) : Option Nat :=
  if cs.isEmpty then none
  else
    cs.foldl (fun n c => do
      let d ← hexDigit? c
      if d < base then some ((← n) * base + d) else none) (some 0)

/-- The most digits of an integer in base ten. Bases that are a power of
two have no bound. -/
def maxDigits : Nat := 4300

/-- An integer in a base. -/
def integerIn (base : Nat) (cs : List Char) : Except ReadFault Int :=
  let (negative, digits) := splitSign (Text.trim cs)
  match digitsIn? base (withoutBaseMark base digits) with
  | some n =>
    if base = 10 && maxDigits < digits.length then
      .error (.longInteger digits.length)
    else .ok (if negative then -(n : Int) else n)
  | none => .error (.badInteger base (String.ofList cs))

/-- The value of integers in base sixty. -/
def baseSixty (parts : List Int) : Int :=
  parts.foldl (fun n d => n * 60 + d) 0

/-- The integer of a text. -/
def integerOf (s : String) : Except ReadFault Int := do
  let cs := s.toList.filter (· != '_')
  if cs.isEmpty then throw .noDigits
  let (negative, digits) := splitSign cs
  let n ← match digits with
    | ['0'] => pure 0
    | '0' :: 'b' :: rest => integerIn 2 rest
    | '0' :: 'x' :: rest => integerIn 16 rest
    | '0' :: _ => integerIn 8 digits
    | [] => throw .noDigits
    | _ =>
      if digits.contains ':' then
        return (if negative then -1 else 1) *
          baseSixty (← (digits.splitOn ':').mapM (integerIn 10))
      else integerIn 10 digits
  return if negative then -n else n

/-- The number of a plain decimal text. -/
def decimalOf (cs : List Char) : Except ReadFault Binary64 :=
  match Binary64.ofText? (String.ofList (Text.trim cs)) with
  | some x => .ok x
  | none => .error (.badNumber (String.ofList cs))

/-- The sum of two numbers as fractions with a sign, rounded. -/
def addRounded (x y : Binary64) : Binary64 :=
  match x.ratio?, y.ratio? with
  | some (s, n, d), some (s', n', d') =>
    let signed (s : Bool) (n : Nat) : Int := if s then -n else n
    let sum := signed s n * d' + signed s' n' * d
    .ofRatio (sum < 0) sum.natAbs (d * d')
  | _, _ => .nan

/-- A number times a power of sixty, rounded. -/
def scaleRounded (x : Binary64) (scale : Nat) : Binary64 :=
  match x.ratio? with
  | some (s, n, d) => .ofRatio s (n * scale) d
  | none => .nan

/-- The value of numbers in base sixty, last one first, rounded at each
step. -/
def sixtyRounded : List Binary64 → Nat → Binary64 → Binary64
  | [], _, sum => sum
  | x :: rest, scale, sum =>
    sixtyRounded rest (scale * 60) (addRounded sum (scaleRounded x scale))

/-- The number of a text. -/
def numberOf (s : String) : Except ReadFault Binary64 := do
  let cs := (s.toList.filter (· != '_')).map Char.toLower
  if cs.isEmpty then throw .noDigits
  let (negative, digits) := splitSign cs
  if digits == ".nan".toList then return .nan
  let x ←
    if digits == ".inf".toList then pure (Binary64.infinite false)
    else if digits.contains ':' then do
      let parts ← (digits.splitOn ':').mapM decimalOf
      pure (sixtyRounded parts.reverse 1 .zero)
    else decimalOf digits
  return if negative then x.neg else x

/-- The days of a month. -/
def daysIn (year month : Nat) : Nat :=
  if month = 2 then
    if year % 4 = 0 && (year % 100 ≠ 0 || year % 400 = 0) then 29 else 28
  else if [4, 6, 9, 11].contains month then 30
  else 31

/-- A date of the calendar. -/
def dateOf (t : TimeText) : Except ReadFault Date := do
  if t.year = 0 then throw (.outOfRange "year 0 is out of range")
  if t.month < 1 || 12 < t.month then
    throw (.outOfRange "month must be in 1..12")
  if t.day < 1 || daysIn t.year t.month < t.day then
    throw (.outOfRange "day is out of range for month")
  return ⟨t.year, t.month, t.day⟩

/-- A fraction of a second in millionths; further digits are dropped. -/
def microsOf (digits : List Char) : Nat :=
  ((digits ++ List.replicate 6 '0').take 6).foldl
    (fun n d => n * 10 + (d.toNat - '0'.toNat)) 0

/-- The minutes of a day. -/
def dayMinutes : Int := 1440

/-- What is said of a zone that is a day or more from universal time. -/
def zoneReason (minutes : Int) : String :=
  let days := minutes.fdiv dayMinutes
  let seconds := minutes.fmod dayMinutes * 60
  "offset must be a timedelta strictly between -timedelta(hours=24) and " ++
    s!"timedelta(hours=24), not datetime.timedelta(days={days}" ++
    (if seconds = 0 then ")." else s!", seconds={seconds}).")

/-- A date, or a time if the text goes on after the date. -/
def timeOf (s : String) : Except ReadFault Value := do
  match timeText? s.toList with
  | none => throw .badTime
  | some t =>
    match t.clock with
    | none => return .date (← dateOf t)
    | some (hour, minute, second) =>
      let zone := t.zone.getD 0
      if dayMinutes ≤ zone.natAbs then throw (.outOfRange (zoneReason zone))
      let date ← dateOf t
      if 23 < hour then throw (.outOfRange "hour must be in 0..23")
      if 59 < minute then throw (.outOfRange "minute must be in 0..59")
      if 59 < second then throw (.outOfRange "second must be in 0..59")
      return .timestamp
        { date := date, hour := hour, minute := minute, second := second
          micros := microsOf t.fraction, offset := t.zone }

/-- The value of a character in base sixty-four. -/
def sixtyFour? (c : Char) : Option Nat :=
  if c.isUpper then some (c.toNat - 'A'.toNat)
  else if c.isLower then some (c.toNat - 'a'.toNat + 26)
  else if c.isDigit then some (c.toNat - '0'.toNat + 52)
  else if c == '+' then some 62
  else if c == '/' then some 63
  else none

/-- Bytes in base sixty-four: four characters stand for three bytes. `place`
is the place of the next character among its four, `left` what the one
before it left over, and `signs` the number of equals signs behind that.
Other characters are passed over, and enough equals signs are the end. -/
def bytesFrom (place left signs : Nat) : List Char → Option (List UInt8)
  | [] => if place = 0 then some [] else none
  | c :: rest =>
    if c == '=' then
      if 2 ≤ place && 4 ≤ place + signs + 1 then some []
      else bytesFrom place left (if 2 ≤ place then signs + 1 else signs) rest
    else
      match sixtyFour? c, place with
      | none, _ => bytesFrom place left signs rest
      | some n, 0 => bytesFrom 1 n 0 rest
      | some n, 1 =>
        (bytesFrom 2 (n % 16) 0 rest).map (.ofNat (left * 4 + n / 16) :: ·)
      | some n, 2 =>
        (bytesFrom 3 (n % 4) 0 rest).map (.ofNat (left * 16 + n / 4) :: ·)
      | some n, _ => (bytesFrom 0 0 0 rest).map (.ofNat (left * 64 + n) :: ·)

/-- The bytes of a text. -/
def bytesOf (s : String) : Except ReadFault (List UInt8) :=
  if s.toList.all fun c => c.toNat < 0x80 then
    match bytesFrom 0 0 0 s.toList with
    | some bs => .ok bs
    | none => .error .malformed
  else .error .malformed

/-- The truth value of a word. -/
def truthOf (s : String) : Except ReadFault Bool :=
  let word := String.ofList (s.toList.map Char.toLower)
  if ["yes", "true", "on"].contains word then .ok true
  else if ["no", "false", "off"].contains word then .ok false
  else .error (.badTruthValue word)

/-- The value of a scalar of a form. The mark of a merge and the mark of
a default are no values. -/
def Form.value (form : Form) (s : String) : Except ReadFault Value :=
  match form with
  | .null => .ok .null
  | .bool => (truthOf s).map .bool
  | .int => (integerOf s).map .int
  | .float => (numberOf s).map .float
  | .timestamp => timeOf s
  | .text => .ok (.text s)
  | .binary => (bytesOf s).map .bytes
  | .merge => .error .malformed
  | .default => .error .malformed

/-- The form that a tag declares. -/
def Form.ofTag? : String → Option Form
  | "tag:yaml.org,2002:null" => some .null
  | "tag:yaml.org,2002:bool" => some .bool
  | "tag:yaml.org,2002:int" => some .int
  | "tag:yaml.org,2002:float" => some .float
  | "tag:yaml.org,2002:timestamp" => some .timestamp
  | "tag:yaml.org,2002:str" => some .text
  | "tag:yaml.org,2002:binary" => some .binary
  | "tag:yaml.org,2002:merge" => some .merge
  | "tag:yaml.org,2002:value" => some .default
  | _ => none

/-- The form of a scalar node, if it has one. -/
def Form.ofScalar? (tag : Option String) (plain : Bool) (s : String) :
    Option Form :=
  match tag with
  | some t => Form.ofTag? t
  | none => some (if plain then Form.ofPlain s else .text)

/-- The value of a scalar node. -/
def scalarValue (tag : Option String) (plain : Bool) (s : String) :
    Except ReadFault Value :=
  match Form.ofScalar? tag plain s with
  | some form => form.value s
  | none => .error .malformed

-- ========================================================== collections

/-- What was built, with the faults found on the way, each with the
level it stands on. -/
structure Built (α : Type) where
  value : α
  faults : List (Nat × ReadFault) := []
deriving Inhabited

/-- What a fault leaves behind. -/
def Built.fault {α : Type} (a : α) (level : Nat) (f : ReadFault) : Built α :=
  ⟨a, [(level, f)]⟩

/-- Whether a node is the key of a merge. -/
def isMergeKey : Node → Bool
  | .scalar tag plain s => Form.ofScalar? tag plain s == some .merge
  | _ => false

/-- Whether a collection has no tag but its own. -/
def isOwnTag (own : String) (tag : Option String) : Bool :=
  tag.all (· == own)

/-- Whether a tag declares a list of pairs. -/
def isPairsTag (tag : Option String) : Bool :=
  tag == some "tag:yaml.org,2002:pairs" ||
    tag == some "tag:yaml.org,2002:omap"

/-- The tag that declares a set. -/
def setTag : String := "tag:yaml.org,2002:set"

/-- Entries put one after the other. -/
def putAll (entries : Entries) : Entries :=
  entries.foldl (fun es (k, v) => Entries.put es k v) []

mutual

/-- The value of a node on a level. -/
def Node.build (level : Nat) : Node → Built Value
  | .scalar tag plain s =>
    match scalarValue tag plain s with
    | .ok v => ⟨v, []⟩
    | .error f => .fault .null level f
  | .sequence tag items =>
    if isOwnTag "tag:yaml.org,2002:seq" tag then
      let b := Node.buildItems (level + 1) items
      ⟨.list b.value, b.faults⟩
    else if isPairsTag tag then
      let b := Node.buildPairs (level + 1) items
      ⟨.list b.value, b.faults⟩
    else .fault .null level .malformed
  | .mapping tag entries =>
    let b := Node.buildEntries (level + 1) entries
    let es := putAll (b.value.1 ++ b.value.2)
    if isOwnTag "tag:yaml.org,2002:map" tag then ⟨.map es, b.faults⟩
    else if tag == some setTag then
      ⟨.group .set (es.keys.map Key.toValue), b.faults⟩
    else .fault .null level .malformed

/-- The values of items. -/
def Node.buildItems (level : Nat) : List Node → Built (List Value)
  | [] => ⟨[], []⟩
  | n :: rest =>
    let b := n.build level
    let bs := Node.buildItems level rest
    ⟨b.value :: bs.value, b.faults ++ bs.faults⟩

/-- The pairs of a list of mappings with one entry each. -/
def Node.buildPairs (level : Nat) : List Node → Built (List Value)
  | [] => ⟨[], []⟩
  | n :: rest =>
    let b : Built Value := match n with
      | .mapping _ entries => Node.buildPair level entries
      | _ => .fault .null level .malformed
    let bs := Node.buildPairs level rest
    ⟨b.value :: bs.value, b.faults ++ bs.faults⟩

/-- The pair of a key and its value. -/
def Node.buildPair (level : Nat) : List (Node × Node) → Built Value
  | [(k, v)] =>
    let key := k.build level
    let value := v.build level
    ⟨.group .tuple [key.value, value.value], key.faults ++ value.faults⟩
  | _ => .fault .null level .malformed

/-- The entries of a mapping: those merged into it, and its own. -/
def Node.buildEntries (level : Nat) :
    List (Node × Node) → Built (Entries × Entries)
  | [] => ⟨([], []), []⟩
  | (k, v) :: rest =>
    let bs := Node.buildEntries level rest
    if isMergeKey k then
      let b := v.merged level
      ⟨(b.value ++ bs.value.1, bs.value.2), b.faults ++ bs.faults⟩
    else
      let key : Built (Option Key) := match k with
        | .scalar tag plain s =>
          if Form.ofScalar? tag plain s == some .default then
            ⟨some (.text s), []⟩
          else
            match scalarValue tag plain s with
            | .ok v => ⟨Key.ofValue? v, []⟩
            | .error f => .fault none level f
        | _ => .fault none level .malformed
      let value := v.build level
      ⟨(bs.value.1, key.value.toList.map (·, value.value) ++ bs.value.2),
        key.faults ++ value.faults ++ bs.faults⟩

/-- The entries that a merge brings: those of a mapping, or of several,
of which an earlier one wins. -/
def Node.merged (level : Nat) : Node → Built Entries
  | .mapping _ entries =>
    let b := Node.buildEntries level entries
    ⟨b.value.1 ++ b.value.2, b.faults⟩
  | .sequence _ items => Node.mergedItems level items
  | .scalar .. => .fault [] level .malformed

/-- The entries of several mappings, the last one first. -/
def Node.mergedItems (level : Nat) : List Node → Built Entries
  | [] => ⟨[], []⟩
  | n :: rest =>
    let b : Built Entries := match n with
      | .mapping _ entries =>
        let b := Node.buildEntries level entries
        ⟨b.value.1 ++ b.value.2, b.faults⟩
      | _ => .fault [] level .malformed
    let bs := Node.mergedItems level rest
    ⟨bs.value ++ b.value, b.faults ++ bs.faults⟩

end

-- ============================================================ documents

/-- The fault nearest to the top, and of those the first. -/
def firstFault : List (Nat × ReadFault) → Option (Nat × ReadFault)
  | [] => none
  | f :: rest =>
    match firstFault rest with
    | some g => some (if g.1 < f.1 then g else f)
    | none => some f

/-- Line ends of every system are read as line feeds. -/
def unixLines : List Char → List Char
  | '\r' :: '\n' :: rest => '\n' :: unixLines rest
  | '\r' :: rest => '\n' :: unixLines rest
  | c :: rest => c :: unixLines rest
  | [] => []

/-- The value of a document; an empty text is null. -/
def read (text : String) : Except ReadFault Value := do
  let cs := unixLines text.toList
  if !cs.all isAllowed then throw .malformed
  let tokens ← Token.scan cs
  match ← Node.ofTokens? tokens with
  | none => return .null
  | some node =>
    let b := node.build 0
    match firstFault b.faults with
    | some (_, f) => throw f
    | none => return b.value

end Yaml

end Outline
