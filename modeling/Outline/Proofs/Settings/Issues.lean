/-
Checks that end without an issue.

The first issue of a check that failed is reported. A check has none to
report in two cases: it failed and lists no issue, or a home directory
that nobody can name has ended it (`Wordless`). The first never happens.
The second happens for one reason: an output of the section on logging
goes to a file below such a directory (`Value.NamesUnknownHome`).

Checks are put together from few combinators. Each of them is wordless
only if one of its parts is, and a part without a home leaves none to the
whole; so both directions are carried from the scalars up to a layer
(`Layer.namesUnknownHome_of_wordless`, `Layer.check_eq_homeless`).
-/
import Outline.Proofs.Settings.Layers

namespace Outline

-- ============================================================ combinators

namespace Checked

variable {α β : Type}

/-- A check that did not pass and has no issue. -/
def Wordless : Checked α → Prop
  | .passed _ => False
  | .failed issues => issues = []
  | .homeless => True

namespace Wordless

theorem of_map {x : Checked α} {f : α → β} (h : (x.map f).Wordless) :
    x.Wordless := by
  cases x <;> exact h

end Wordless

@[simp] theorem map_homeless (f : α → β) :
    (homeless : Checked α).map f = homeless := rfl

@[simp] theorem homeless_ap (x : Checked α) :
    (homeless : Checked (α → β)).ap x = homeless := rfl

@[simp] theorem ap_homeless (f : Checked (α → β)) :
    f.ap homeless = homeless := by
  cases f <;> rfl

@[simp] theorem under_homeless (key : String) :
    (homeless : Checked α).under key = homeless := rfl

/-- One item without a home ends the check of the list. -/
theorem items_eq_homeless {check : Value → Checked α} {v : Value}
    {vs : List Value} (hv : v ∈ vs) (hcheck : check v = homeless) (i : Nat) :
    items check i vs = homeless := by
  induction vs generalizing i with
  | nil => cases hv
  | cons w vs ih =>
      rw [items]
      rcases List.mem_cons.mp hv with rfl | hv
      · rw [hcheck, under_homeless, map_homeless, homeless_ap]
      · rw [ih hv, ap_homeless]

end Checked

open Checked

/-- The items of a value that is read as a list. -/
inductive Value.Lists : Value → List Value → Prop where
  | list {items : List Value} : Lists (.list items) items
  | group {kind : Grouping} {items : List Value} :
      Lists (.group kind items) items

theorem checkList_of_lists {α : Type} {check : Value → Checked α} {v : Value}
    {items : List Value} (h : v.Lists items) :
    checkList check v = Checked.items check 0 items := by
  cases h <;> rfl

section Fields

variable {α : Type} {check : Value → Checked α} {e : Entries} {name : String}
  {fallback : α} {v : Value}

theorem checkField_eq_homeless (hv : e.get? (.text name) = some v)
    (hcheck : check v = homeless) :
    checkField e name fallback check = homeless := by
  rw [checkField, hv]
  dsimp only
  rw [hcheck, under_homeless]

end Fields

-- ================================================================ scalars

theorem checkDestination_eq_homeless {homes : Homes} {v : Value} {d : String}
    (htext : checkText v = passed d)
    (h : homes.expand (.ofText d) = .error .unknown) :
    checkDestination homes v = homeless := by
  rw [checkDestination, htext, andThen_passed]
  split
  next hstream =>
    -- the streams have no tilde
    rw [Bool.or_eq_true, beq_iff_eq, beq_iff_eq] at hstream
    rcases hstream with rfl | rfl <;> cases h
  next => rw [h]

-- =============================================================== sections

/-- An output to a file below a home directory that nobody can name. -/
def Value.LacksHome (homes : Homes) (output : Value) : Prop :=
  ∃ fields v d, output = .map fields
    ∧ Entries.get? fields (.text "destination") = some v
    ∧ checkText v = passed d ∧ homes.expand (.ofText d) = .error .unknown

/-- A section on logging with such an output. -/
def Value.NamesUnknownHome (homes : Homes) (v : Value) : Prop :=
  ∃ fields w outputs, v = .map fields
    ∧ Entries.get? fields (.text "outputs") = some w
    ∧ w.Lists outputs ∧ ∃ output ∈ outputs, output.LacksHome homes

theorem LogOutput.check_eq_homeless {homes : Homes} {v : Value}
    (h : v.LacksHome homes) : check homes v = homeless := by
  obtain ⟨fields, v, d, rfl, hv, htext, hunknown⟩ := h
  rw [check, checkSection, checkFields,
    checkField_eq_homeless hv (checkDestination_eq_homeless htext hunknown),
    ap_homeless, homeless_ap]

theorem LoggingSettings.check_eq_homeless {homes : Homes} {v : Value}
    (h : v.NamesUnknownHome homes) : check homes v = homeless := by
  obtain ⟨fields, w, outputs, rfl, houtputs, hlists, output, hmem, hlacks⟩ := h
  have hlist : checkList (LogOutput.check homes) w = homeless := by
    rw [checkList_of_lists hlists]
    exact items_eq_homeless hmem (LogOutput.check_eq_homeless hlacks) 0
  rw [check, checkSection, checkFields, checkField_eq_homeless houtputs hlist,
    ap_homeless]

-- ================================================================= layers

variable {homes : Homes} {layer : Layer}

namespace Layer

/-- An output without a home ends the check of the whole layer. -/
theorem check_eq_homeless {v : Value}
    (hlogging : layer.lookup (.text "logging") = some (.value v))
    (hv : v.NamesUnknownHome homes) : layer.check homes = homeless := by
  have hsection : ∀ {expected fallback take?}, checkOverride "logging"
      expected fallback take? (LoggingSettings.check homes) layer
        = homeless := by
    intro expected fallback take?
    rw [checkOverride, hlogging]
    dsimp only
    rw [LoggingSettings.check_eq_homeless hv, under_homeless]
  unfold Layer.check
  dsimp only
  rw [hsection, map_homeless, homeless_ap]
  split
  next => rfl
  next => rw [map_homeless, homeless_ap]

end Layer

-- ======================================================= accepted sections

/-- A section that was accepted passed its check, or was handed over. -/
theorem check_or_ready_of_checkOverride {α : Type} {name expected : String}
    {fallback a : α} {take? : ReadySettings → Option α}
    {check : Value → Checked α}
    (h : checkOverride name expected fallback take? check layer = passed a)
    (hempty : check (.map []) = passed fallback) :
    (∃ v, check v = passed a)
      ∨ ∃ ready, layer.lookup (.text name) = some (.ready ready)
        ∧ take? ready = some a := by
  unfold checkOverride at h
  split at h
  next =>
    cases h
    exact .inl ⟨_, hempty⟩
  next v _ => exact .inl ⟨v, under_eq_passed.mp h⟩
  next ready hready =>
    split at h
    next htake =>
      cases h
      exact .inr ⟨ready, hready, htake⟩
    next => cases h

/-- Sections that were accepted are valid, unless they were handed
over. -/
theorem Layer.valid_or_ready {s : Settings}
    (h : layer.check homes = passed s) :
    (s.logging.Valid
        ∨ layer.lookup (.text "logging") = some (.ready (.logging s.logging)))
      ∧ (s.extraction.Valid
        ∨ layer.lookup (.text "extraction")
          = some (.ready (.extraction s.extraction))) := by
  unfold Layer.check at h
  dsimp only at h
  split at h
  next =>
    obtain ⟨_, e, hfirst, hextraction, rfl⟩ := ap_eq_passed.mp h
    obtain ⟨l, hlogging, rfl⟩ := map_eq_passed.mp hfirst
    constructor
    · rcases check_or_ready_of_checkOverride hlogging rfl with
        ⟨v, hv⟩ | ⟨ready, hready, htake⟩
      · exact .inl (LoggingSettings.valid_of_check hv)
      · cases ready with
        | logging l => cases htake; exact .inr hready
        | _ => cases htake
    · rcases check_or_ready_of_checkOverride hextraction rfl with
        ⟨v, hv⟩ | ⟨ready, hready, htake⟩
      · exact .inl (ExtractionSettings.valid_of_check hv)
      · cases ready with
        | extraction e => cases htake; exact .inr hready
        | _ => cases htake
  next =>
    obtain ⟨_, _, -, hfailed, -⟩ := ap_eq_passed.mp h
    cases hfailed

end Outline
