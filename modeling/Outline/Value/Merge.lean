/-
Laying one mapping over another.

Where both mappings hold a mapping under one key the two are merged;
everywhere else the upper value replaces the lower one. Keys keep the
order and the spelling of the lower mapping, and new keys follow in the
order of the upper one.
-/
import Outline.Value.Basic

namespace Outline

namespace Entries

mutual

/-- Lays the entries `upper` over the entries `lower`. -/
def merge (lower : Entries) : (upper : List (Key × Value)) → Entries
  | [] => lower
  | (key, value) :: rest =>
    merge (put lower key (mergeAt (lower.value? key) value)) rest

/-- What stands under a key after `value` is laid over what was there. -/
def mergeAt (below : Option Value) : (value : Value) → Value
  | .map upper =>
    match below with
    | some (.map lower) => .map (merge lower upper)
    | _ => .map upper
  | value => value

end

end Entries

/-- A path of keys into nested mappings. -/
abbrev KeyPath := List Key

/-- What a value holds at a path of keys. -/
def Value.at? (v : Value) : KeyPath → Option Value
  | [] => some v
  | key :: rest =>
    match v with
    | .map entries => (Entries.value? entries key).bind fun w => w.at? rest
    | _ => none

end Outline
