/-
Settings that were accepted once are accepted again.

A worker is started from settings as a document: they are written out,
handed over, and checked like any other document. Nothing may be lost on
the way. What a check can have accepted is a small condition on the
settings (`Valid`), and it is all that the check of their own document
asks for (`check_toValue`).
-/
import Outline.Proofs.Path
import Outline.Settings.Check

namespace Outline

-- ================================================================ checks

namespace Checked

variable {α β : Type}

@[simp] theorem map_passed (f : α → β) (a : α) :
    (passed a).map f = passed (f a) := rfl

@[simp] theorem ap_passed (f : α → β) (a : α) :
    (passed f).ap (passed a) = passed (f a) := rfl

@[simp] theorem andThen_passed (a : α) (f : α → Checked β) :
    (passed a).andThen f = f a := rfl

@[simp] theorem under_passed (key : String) (a : α) :
    (passed a).under key = passed a := rfl

theorem map_eq_passed {x : Checked α} {f : α → β} {b : β} :
    x.map f = passed b ↔ ∃ a, x = passed a ∧ f a = b := by
  cases x <;> simp [map]

theorem ap_eq_passed {f : Checked (α → β)} {x : Checked α} {b : β} :
    f.ap x = passed b ↔ ∃ g a, f = passed g ∧ x = passed a ∧ g a = b := by
  cases f <;> cases x <;> simp [ap]

theorem andThen_eq_passed {x : Checked α} {f : α → Checked β} {b : β} :
    x.andThen f = passed b ↔ ∃ a, x = passed a ∧ f a = passed b := by
  cases x <;> simp [andThen]

theorem under_eq_passed {x : Checked α} {key : String} {a : α} :
    x.under key = passed a ↔ x = passed a := by
  cases x <;> simp [under]

/-- The items of a list that each pass their check. -/
theorem items_map_passed (check : Value → Checked α) (write : α → Value)
    (as : List α) (h : ∀ a ∈ as, check (write a) = passed a) (i : Nat) :
    items check i (as.map write) = passed as := by
  induction as generalizing i with
  | nil => rfl
  | cons a as ih =>
      obtain ⟨ha, has⟩ := List.forall_mem_cons.mp h
      rw [List.map_cons, items, ha, ih has]
      rfl

/-- Every item of a list that was accepted was accepted itself. -/
theorem exists_of_mem_items {check : Value → Checked α} {i : Nat}
    {vs : List Value} {as : List α} (h : items check i vs = passed as)
    {a : α} (ha : a ∈ as) : ∃ v, check v = passed a := by
  induction vs generalizing i as with
  | nil =>
      cases h
      cases ha
  | cons v vs ih =>
      obtain ⟨_, rest, hfirst, hrest, rfl⟩ := ap_eq_passed.mp h
      obtain ⟨first, hv, rfl⟩ := map_eq_passed.mp hfirst
      rcases List.mem_cons.mp ha with rfl | ha
      · exact ⟨v, under_eq_passed.mp hv⟩
      · exact ih hrest ha

end Checked

open Checked

/-- A field that was accepted has its default, or its value was. -/
theorem checkField_eq_passed {α : Type} {e : Entries} {name : String}
    {fallback a : α} {check : Value → Checked α}
    (h : checkField e name fallback check = passed a) :
    a = fallback ∨ ∃ v, check v = passed a := by
  unfold checkField at h
  split at h
  next =>
    cases h
    exact .inl rfl
  next v _ => exact .inr ⟨v, under_eq_passed.mp h⟩

/-- What was accepted as a list has items that were. -/
theorem exists_of_checkList {α : Type} {check : Value → Checked α}
    {v : Value} {as : List α} (h : checkList check v = passed as) :
    ∃ vs, items check 0 vs = passed as := by
  unfold checkList at h
  split at h
  next vs => exact ⟨vs, h⟩
  next vs => exact ⟨vs, h⟩
  next => cases h

/-- What is written for an optional value is read as that value. -/
theorem checkOptional_ofOption {α : Type} {check : Value → Checked α}
    (write : α → Value) (hcheck : ∀ a, check (write a) = passed a)
    (hnull : ∀ a, write a ≠ .null) (o : Option α) :
    checkOptional check (.ofOption (o.map write)) = passed o := by
  cases o with
  | none => rfl
  | some a =>
      rw [Option.map_some, Value.ofOption, checkOptional]
      · rw [hcheck, map_passed]
      · exact hnull a

-- ============================================================ extraction

namespace ExtractionSettings

/-- What a check has made sure of: the limits are positive, as far as
they can be compared with zero. -/
structure Valid (s : ExtractionSettings) : Prop where
  maxFileSizeMb : 1 ≤ s.maxFileSizeMb
  maxWorkers : 1 ≤ s.maxWorkers
  fileTimeout : ∀ x, s.fileTimeout = some x → x.nonpositive = false

theorem one_le_of_checkPositive {v : Value} {n : Int}
    (h : checkPositive v = passed n) : 1 ≤ n := by
  obtain ⟨m, _, hm⟩ := andThen_eq_passed.mp h
  split at hm
  next => cases hm
  next hlt =>
    cases hm
    exact Int.not_lt.mp hlt

theorem positive_of_checkTimeout {v : Value} {limit : Option Binary64}
    (h : checkTimeout v = passed limit) {x : Binary64}
    (hx : limit = some x) : x.nonpositive = false := by
  obtain ⟨o, _, ho⟩ := andThen_eq_passed.mp h
  cases o with
  | none =>
      cases ho
      cases hx
  | some y =>
      simp only at ho
      split at ho
      next => cases ho
      next hpos =>
        cases ho
        cases hx
        exact Bool.eq_false_iff.mpr hpos

/-- Settings that were accepted are valid. -/
theorem valid_of_check {v : Value} {s : ExtractionSettings}
    (h : check v = passed s) : s.Valid := by
  unfold check checkSection at h
  split at h
  next entries =>
    obtain ⟨_, timeout, h₆, htimeout, rfl⟩ := ap_eq_passed.mp h
    obtain ⟨_, workers, h₅, hworkers, rfl⟩ := ap_eq_passed.mp h₆
    obtain ⟨_, size, h₄, hsize, rfl⟩ := ap_eq_passed.mp h₅
    obtain ⟨_, _, h₃, _, rfl⟩ := ap_eq_passed.mp h₄
    obtain ⟨_, _, h₂, _, rfl⟩ := ap_eq_passed.mp h₃
    obtain ⟨_, _, h₁, _, rfl⟩ := ap_eq_passed.mp h₂
    obtain ⟨_, _, rfl⟩ := map_eq_passed.mp h₁
    constructor
    · rcases checkField_eq_passed hsize with rfl | ⟨v, hv⟩
      · exact (by decide : (1 : Int) ≤ 10)
      · exact one_le_of_checkPositive hv
    · rcases checkField_eq_passed hworkers with rfl | ⟨v, hv⟩
      · exact Int.le_refl 1
      · exact one_le_of_checkPositive hv
    · intro x hx
      rcases checkField_eq_passed htimeout with rfl | ⟨v, hv⟩
      · cases hx
      · exact positive_of_checkTimeout hv hx
  next => cases h

theorem checkPositive_int {n : Int} (h : 1 ≤ n) :
    checkPositive (.int n) = passed n := by
  simp [checkPositive, checkInt, Int.not_lt.mpr h]

theorem checkTimeout_ofOption {limit : Option Binary64}
    (h : ∀ x, limit = some x → x.nonpositive = false) :
    checkTimeout (.ofOption (limit.map .float)) = passed limit := by
  have hread : checkOptional checkFloat (.ofOption (limit.map .float))
      = passed limit :=
    checkOptional_ofOption .float (fun _ => rfl) (fun _ => nofun) limit
  rw [checkTimeout, hread, andThen_passed]
  cases limit with
  | none => rfl
  | some x => simp [h x rfl]

/-- Valid settings are read back from their own document. -/
theorem check_toValue {s : ExtractionSettings} (h : s.Valid) :
    check s.toValue = passed s := by
  have hlanguages : checkOptional (checkList checkText)
      (.ofOption (s.languages.map fun ls => .list (ls.map .text)))
        = passed s.languages :=
    checkOptional_ofOption (fun ls : List String => .list (ls.map .text))
      (fun ls => items_map_passed checkText .text ls (fun _ _ => rfl) 0)
      (fun _ => nofun) _
  have hsize := checkPositive_int h.maxFileSizeMb
  have hworkers := checkPositive_int h.maxWorkers
  have htimeout := checkTimeout_ofOption h.fileTimeout
  have hfields : check s.toValue
      = ((((((((passed s.includeContent).map ExtractionSettings.mk).ap
          (passed s.resolveScopes)).ap
          ((checkOptional (checkList checkText)
            (.ofOption (s.languages.map fun ls => .list (ls.map .text)))).under
              "languages")).ap
          (passed s.strictQueries)).ap
          ((checkPositive (.int s.maxFileSizeMb)).under
            "max_file_size_mb")).ap
          ((checkPositive (.int s.maxWorkers)).under "max_workers")).ap
          ((checkTimeout (.ofOption (s.fileTimeout.map .float))).under
            "file_timeout_sec")) := rfl
  rw [hfields, hlanguages, hsize, hworkers, htimeout]
  simp only [under_passed, map_passed, ap_passed]

end ExtractionSettings

-- =============================================================== logging

/-- What a destination is after a check: a standard stream, or an
absolute path as it is written. -/
def IsDestination (d : String) : Prop :=
  d = "stderr" ∨ d = "stdout"
    ∨ ∃ p : LexicalPath, p.Normal ∧ p.isAbsolute = true ∧ p.toText = d

/-- Replacing a tilde keeps a path normal. -/
theorem Homes.normal_of_expand {homes : Homes} {p q : LexicalPath}
    (hp : p.Normal) (h : homes.expand p = .ok q) : q.Normal := by
  unfold expand at h
  split at h
  next first rest hparts =>
    split at h
    next =>
      cases hfound : homes.directory first with
      | error fault =>
          rw [hfound] at h
          cases h
      | ok dir =>
          rw [hfound] at h
          cases h
          have hdir := LexicalPath.normal_ofText dir
          refine ⟨hdir.root, fun part hpart => ?_⟩
          rcases List.mem_append.mp hpart with hpart | hpart
          · exact hdir.parts part hpart
          · refine hp.parts part ?_
            rw [hparts]
            exact List.mem_cons_of_mem first hpart
    next =>
      cases h
      exact hp
  next =>
    cases h
    exact hp

/-- An absolute path has no tilde to replace. -/
theorem Homes.expand_of_isAbsolute (homes : Homes) {p : LexicalPath}
    (h : p.isAbsolute = true) : homes.expand p = .ok p := by
  unfold expand
  split
  next =>
    rw [h, Bool.not_true, Bool.false_and]
    rfl
  next => rfl

theorem isDestination_of_check {homes : Homes} {v : Value} {d : String}
    (h : checkDestination homes v = passed d) : IsDestination d := by
  obtain ⟨s, -, hs⟩ := andThen_eq_passed.mp h
  split at hs
  next hstream =>
    cases hs
    rw [Bool.or_eq_true, beq_iff_eq, beq_iff_eq] at hstream
    exact hstream.imp_right .inl
  next =>
    split at hs
    next => cases hs
    next => cases hs
    next path hpath =>
      split at hs
      next habsolute =>
        cases hs
        have hnormal :=
          Homes.normal_of_expand (LexicalPath.normal_ofText s) hpath
        exact .inr (.inr ⟨path, hnormal, habsolute, rfl⟩)
      next => cases hs

/-- A destination is read as itself, wherever the home directories
are. -/
theorem checkDestination_text (homes : Homes) {d : String}
    (h : IsDestination d) : checkDestination homes (.text d) = passed d := by
  rcases h with rfl | rfl | ⟨p, hnormal, habsolute, rfl⟩
  · rfl
  · rfl
  · rw [checkDestination, checkText, andThen_passed]
    split
    next => rfl
    next =>
      rw [hnormal.ofText_toText, homes.expand_of_isAbsolute habsolute]
      simp only [if_pos habsolute]

namespace LogOutput

theorem isDestination_of_check {homes : Homes} {v : Value} {o : LogOutput}
    (h : check homes v = passed o) : IsDestination o.destination := by
  unfold check checkSection at h
  split at h
  next entries =>
    obtain ⟨_, level, h₂, -, rfl⟩ := ap_eq_passed.mp h
    obtain ⟨_, destination, h₁, hdestination, rfl⟩ := ap_eq_passed.mp h₂
    obtain ⟨_, -, rfl⟩ := map_eq_passed.mp h₁
    rcases checkField_eq_passed hdestination with rfl | ⟨v, hv⟩
    · exact .inl rfl
    · exact Outline.isDestination_of_check hv
  next => cases h

/-- An output is read back from its own document. -/
theorem check_toValue (homes : Homes) {o : LogOutput}
    (h : IsDestination o.destination) : check homes o.toValue = passed o := by
  have hformat : checkFormat (.text o.format.name) = passed o.format := by
    cases o.format <;> rfl
  have hlevel : checkOptional checkLevel (Severity.toValue? o.level)
      = passed o.level := by
    rcases o.level with _ | level
    · rfl
    · cases level <;> rfl
  have hfields : check homes o.toValue
      = ((((checkFormat (.text o.format.name)).under "format").map
          LogOutput.mk).ap
          ((checkDestination homes (.text o.destination)).under
            "destination")).ap
          ((checkOptional checkLevel (Severity.toValue? o.level)).under
            "level") := rfl
  rw [hfields, hformat, checkDestination_text homes h, hlevel]
  rfl

end LogOutput

namespace LoggingSettings

/-- What a check has made sure of: every output has a place to go. -/
def Valid (s : LoggingSettings) : Prop :=
  ∀ o ∈ s.outputs, IsDestination o.destination

/-- Settings that were accepted are valid. -/
theorem valid_of_check {homes : Homes} {v : Value} {s : LoggingSettings}
    (h : check homes v = passed s) : s.Valid := by
  unfold check checkSection at h
  split at h
  next entries =>
    obtain ⟨_, outputs, h₁, houtputs, rfl⟩ := ap_eq_passed.mp h
    obtain ⟨_, -, rfl⟩ := map_eq_passed.mp h₁
    intro o ho
    rcases checkField_eq_passed houtputs with rfl | ⟨v, hv⟩
    · rw [List.mem_singleton.mp ho]
      exact .inl rfl
    · obtain ⟨vs, hvs⟩ := exists_of_checkList hv
      obtain ⟨w, hw⟩ := exists_of_mem_items hvs ho
      exact LogOutput.isDestination_of_check hw
  next => cases h

/-- Valid settings are read back from their own document. -/
theorem check_toValue (homes : Homes) {s : LoggingSettings} (h : s.Valid) :
    check homes s.toValue = passed s := by
  have hlevel : checkLevel (.text s.level.name) = passed s.level := by
    cases s.level <;> rfl
  have houtputs : checkList (LogOutput.check homes)
      (.list (s.outputs.map LogOutput.toValue)) = passed s.outputs :=
    items_map_passed _ _ s.outputs
      (fun o ho => LogOutput.check_toValue homes (h o ho)) 0
  have hfields : check homes s.toValue
      = (((checkLevel (.text s.level.name)).under "level").map
          LoggingSettings.mk).ap
          ((checkList (LogOutput.check homes)
            (.list (s.outputs.map LogOutput.toValue))).under "outputs") := rfl
  rw [hfields, hlevel, houtputs]
  rfl

/-- The settings of a section with one output to the error stream are
read back from their own document. -/
theorem check_toValue_default (homes : Homes) (level : Severity) :
    check homes (LoggingSettings.toValue { level }) = passed { level } := by
  cases level <;> rfl

end LoggingSettings

-- ========================================================== all settings

/-- Settings with two valid sections are read back from their own
document. -/
theorem Settings.check_toValue (homes : Homes) {s : Settings}
    (hlogging : s.logging.Valid) (hextraction : s.extraction.Valid) :
    check homes s.toValue = passed s := by
  have hfields : check homes s.toValue
      = (((LoggingSettings.check homes s.logging.toValue).under
          "logging").map Settings.mk).ap
          ((ExtractionSettings.check s.extraction.toValue).under
            "extraction") := rfl
  rw [hfields, LoggingSettings.check_toValue homes hlogging,
    ExtractionSettings.check_toValue hextraction]
  rfl

end Outline
