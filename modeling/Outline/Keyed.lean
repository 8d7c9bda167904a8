/-
Lists of entries with keys.

Documents, records, the sections of a run and the tables of the registry
are all kept as lists of entries, in the order in which their keys were
first given. A new entry takes the place of one with its key, and stands
at the end otherwise.
-/
namespace Outline

namespace Keyed

variable {κ β : Type} [DecidableEq κ]

/-- The keys of a list of entries. -/
abbrev keys (l : List (κ × β)) : List κ := l.map (·.1)

/-- Puts an entry in place if its key is there, and at the end
otherwise. -/
def put (key : κ) (b : β) : List (κ × β) → List (κ × β)
  | [] => [(key, b)]
  | (k, c) :: rest =>
    if k = key then (k, b) :: rest else (k, c) :: put key b rest

end Keyed

end Outline
