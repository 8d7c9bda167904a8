/-
Sources of settings that cannot be read.

A document is a file that the system may refuse, or a pipe that nobody
writes to; its reader may fail, or find a text that breaks the rules of its
notation, or a value that is no mapping. Only the last two have a report
(`SettingsDocument.read_eq_error_iff`).

A variable is read as JSON if it gives a whole section, or a key that holds
a list. In each section one key does (`Environment.eq_of_encodingOf`), and
no two variables have the name of that key when names are lower-cased, so a
section fails for one reason (`Environment.sectionValue_eq_error_iff`).
-/
import Outline.Proofs.Settings.Environment

namespace Outline

open Keyed

/-- What failed has failed at some step. -/
theorem error_of_bind_eq_error {ε α β : Type} {x : Except ε α}
    {f : α → Except ε β} {e : ε} (h : x >>= f = .error e) :
    x = .error e ∨ ∃ a, x = .ok a ∧ f a = .error e := by
  cases x with
  | error e => cases h; exact .inl rfl
  | ok a => exact .inr ⟨a, rfl, h⟩

/-- A last step that cannot fail adds no failure. -/
theorem bind_pure_eq_error {ε α β : Type} {x : Except ε α} {f : α → β}
    {e : ε} : (x >>= fun a => pure (f a)) = .error e ↔ x = .error e := by
  cases x with
  | error e => constructor <;> (intro h; cases h; rfl)
  | ok a => exact iff_of_false nofun nofun

-- ============================================================== documents

namespace SettingsDocument

variable {reader : DocumentReader} {files : FileSystem} {path : String}
  {f : LoadFault}

/-- The bytes of a document that is there and can be read. -/
def Holds (files : FileSystem) (path : String) (bytes : List UInt8) : Prop :=
  ∃ size, files.access path = .state ⟨.ok size, .ok bytes⟩

/-- What is reported of a document: that it breaks the rules of its
notation, or that it is no mapping. -/
inductive Reports (reader : DocumentReader) (files : FileSystem)
    (path : String) : SettingsFault → Prop where
  | malformed {bytes : List UInt8} {reason : String} :
      Holds files path bytes → reader.read bytes = .malformed reason →
      Reports reader files path (.unreadable path reason)
  | noMapping {bytes : List UInt8} {v : Value} :
      Holds files path bytes → reader.read bytes = .value v →
      v.isEmptyDocument = false → v.isMap = false →
      Reports reader files path
        (.unreadable path "top level must be a mapping")

/-- What keeps a document from being read and is not reported: the system
does not say whether it is there, or refuses its bytes, or it is a pipe, or
the reader fails. -/
inductive Escapes (reader : DocumentReader) (files : FileSystem)
    (path : String) : LoadFault → Prop where
  | look {e : OsFault} {bytes : Except OsFault (List UInt8)} :
      files.access path = .state ⟨.error e, bytes⟩ →
      e.cause.isAbsence = false → Escapes reader files path (.file e)
  | read {e : OsFault} {size : Nat} :
      files.access path = .state ⟨.ok size, .error e⟩ →
      Escapes reader files path (.file e)
  | pipe : files.access path = .endless →
      Escapes reader files path .endless
  | reader {bytes : List UInt8} {e : Raised} :
      Holds files path bytes → reader.read bytes = .raised e →
      Escapes reader files path (.raised e)

theorem ofReading_eq_error_iff {r : Reading} :
    ofReading path r = .error f
      ↔ (∃ reason, r = .malformed reason
          ∧ f = .reported (.unreadable path reason))
        ∨ (∃ v, r = .value v ∧ v.isEmptyDocument = false ∧ v.isMap = false
          ∧ f = .reported (.unreadable path "top level must be a mapping"))
        ∨ ∃ e, r = .raised e ∧ f = .raised e := by
  constructor
  · intro h
    unfold ofReading at h
    split at h
    next reason =>
      cases h
      exact .inl ⟨reason, rfl, rfl⟩
    next e =>
      cases h
      exact .inr (.inr ⟨e, rfl, rfl⟩)
    next v =>
      split at h
      next => cases h
      next hempty =>
        split at h
        next => cases h
        next hmap =>
          cases h
          refine .inr (.inl ⟨v, rfl, Bool.eq_false_iff.mpr hempty, ?_, rfl⟩)
          cases v with
          | map entries => exact absurd rfl (hmap entries)
          | _ => rfl
  · rintro (⟨reason, rfl, rfl⟩ | ⟨v, rfl, hempty, hmap, rfl⟩ | ⟨e, rfl, rfl⟩)
    · rfl
    · rw [ofReading, hempty, if_neg Bool.false_ne_true]
      rintro entries rfl
      cases hmap
    · rfl

theorem Holds.read_eq {bytes : List UInt8} (h : Holds files path bytes) :
    SettingsDocument.read reader files path
      = ofReading path (reader.read bytes) := by
  obtain ⟨size, haccess⟩ := h
  rw [SettingsDocument.read, bytes?, haccess]

/-- What is reported is what the document fails with. -/
theorem Reports.read_eq {fault : SettingsFault}
    (h : Reports reader files path fault) :
    SettingsDocument.read reader files path = .error (.reported fault) := by
  cases h with
  | malformed hholds hmalformed =>
      rw [hholds.read_eq, ofReading_eq_error_iff]
      exact .inl ⟨_, hmalformed, rfl⟩
  | noMapping hholds hvalue hempty hmap =>
      rw [hholds.read_eq, ofReading_eq_error_iff]
      exact .inr (.inl ⟨_, hvalue, hempty, hmap, rfl⟩)

/-- What escapes is what the document fails with. -/
theorem Escapes.read_eq (h : Escapes reader files path f) :
    SettingsDocument.read reader files path = .error f := by
  cases h with
  | look haccess habsence =>
      rw [SettingsDocument.read, bytes?, haccess]
      dsimp only
      rw [habsence]
      rfl
  | read haccess => rw [SettingsDocument.read, bytes?, haccess]
  | pipe haccess => rw [SettingsDocument.read, bytes?, haccess]
  | reader hholds hraised =>
      rw [hholds.read_eq, ofReading_eq_error_iff]
      exact .inr (.inr ⟨_, hraised, rfl⟩)

end SettingsDocument

-- ============================================================== variables

namespace Environment

variable {json : String → Reading} {vars : Environment}
  {part key key' text : String} {entries : Entries} {f : LoadFault}

/-- A text that is no JSON, and what becomes of the section. -/
inductive Unread (json : String → Reading) (part text : String) :
    LoadFault → Prop where
  | malformed {reason : String} : json text = .malformed reason →
      Unread json part text (.environment part)
  | raised {e : Raised} : json text = .raised e →
      Unread json part text (.raised e)

/-- Whether a text that is no JSON counts under a key: where a text would
do as well, only a failure of the reader does. -/
def Counts (part key : String) (f : LoadFault) : Prop :=
  encodingOf part key = .json
    ∨ encodingOf part key = .jsonOrText ∧ ∃ e, f = .raised e

/-- A section whose variables cannot be read: that of the whole section is
no JSON; or that of a key is none, and no variable of the whole section
makes the single keys pointless. -/
inductive Garbled (json : String → Reading) (vars : Environment)
    (part : String) : LoadFault → Prop where
  | whole {text : String} {f : LoadFault} :
      vars.text? (mark ++ part) = some text → Unread json part text f →
      Garbled json vars part f
  | key {key text : String} {f : LoadFault} :
      (∀ whole, vars.text? (mark ++ part) = some whole →
        ∃ given, json whole = .value (.map given)) →
      vars.text? (nameOf part key) = some text → text.isEmpty = false →
      Unread json part text f → Counts part key f →
      Garbled json vars part f

theorem unread_iff : Unread json part text f
    ↔ (∃ reason, json text = .malformed reason) ∧ f = .environment part
      ∨ ∃ e, json text = .raised e ∧ f = .raised e := by
  constructor
  · intro h
    cases h with
    | malformed h => exact .inl ⟨⟨_, h⟩, rfl⟩
    | raised h => exact .inr ⟨_, h, rfl⟩
  · rintro (⟨⟨_, h⟩, rfl⟩ | ⟨_, h, rfl⟩)
    · exact .malformed h
    · exact .raised h

theorem decode_eq_error_iff :
    decode json part key text = .error f
      ↔ text.isEmpty = false ∧ Unread json part text f
        ∧ Counts part key f := by
  rw [unread_iff, Counts]
  cases hempty : text.isEmpty <;> cases hencoding : encodingOf part key <;>
    cases hread : json text <;>
    simp [decode, hempty, hencoding, hread, eq_comm]
  all_goals
    intro hf
    simp [hf]

/-- Each section has one key that holds a list. -/
theorem eq_of_encodingOf (h : encodingOf part key ≠ .text)
    (h' : encodingOf part key' ≠ .text) : key = key' := by
  unfold encodingOf at h h'
  split at h
  next =>
    split at h'
    next => rfl
    next hpart => exact absurd hpart (by decide)
    next => exact absurd rfl h'
  next =>
    split at h'
    next hpart => exact absurd hpart (by decide)
    next => rfl
    next => exact absurd rfl h'
  next => exact absurd rfl h

theorem Counts.encodingOf_ne (h : Counts part key f) :
    encodingOf part key ≠ .text := by
  rcases h with h | ⟨h, -⟩ <;> rw [h] <;> nofun

/-- A key that holds a list is not cut. -/
theorem isWhole_of_encodingOf (h : encodingOf part key ≠ .text) :
    IsWhole key := by
  unfold encodingOf at h
  split at h
  next => rfl
  next => rfl
  next => exact absurd rfl h

/-- Single keys fail only at the variable of a key. -/
theorem exists_of_nested_error
    (h : nested json part vars entries = .error f) :
    ∃ key text, (nameOf part key, text) ∈ vars
      ∧ decode json part key text = .error f := by
  induction vars generalizing entries with
  | nil => cases h
  | cons v rest ih =>
      obtain ⟨name, text⟩ := v
      have hrest : (∃ given, nested json part rest given = .error f) →
          ∃ key t, (nameOf part key, t) ∈ (name, text) :: rest
            ∧ decode json part key t = .error f := by
        rintro ⟨given, hgiven⟩
        obtain ⟨key, t, ht, hbad⟩ := ih hgiven
        exact ⟨key, t, List.mem_cons_of_mem _ ht, hbad⟩
      rw [nested] at h
      dsimp only at h
      split at h
      next hstart =>
        obtain ⟨tail, htail⟩ := List.isPrefixOf_iff_prefix.mp hstart
        rw [← htail, List.drop_left] at h
        cases hparts : splitName [] tail with
        | nil => exact absurd hparts (splitName_ne_nil [] tail)
        | cons k more =>
            rw [hparts] at h
            cases more with
            | cons second others => exact hrest ⟨_, h⟩
            | nil =>
                -- the name ends with its key
                rcases error_of_bind_eq_error h with hvalue | ⟨v, -, hv⟩
                · have hname : nameOf part k = name := by
                    apply String.toList_injective
                    rw [toList_nameOf, ← htail,
                      eq_of_splitName_eq_singleton hparts,
                      String.toList_ofList]
                    rfl
                  exact ⟨k, text, hname ▸ List.mem_cons_self, hvalue⟩
                · exact hrest ⟨_, hv⟩
      next => exact hrest ⟨_, h⟩

theorem nested_lowered_eq_error_iff :
    nested json part vars.lowered [] = .error f
      ↔ ∃ key text, vars.text? (nameOf part key) = some text
        ∧ decode json part key text = .error f := by
  have hfound : ∀ {g}, nested json part vars.lowered [] = .error g →
      ∃ key text, vars.text? (nameOf part key) = some text
        ∧ decode json part key text = .error g := by
    intro g h
    obtain ⟨key, text, hmem, hbad⟩ := exists_of_nested_error h
    rw [← lookup_eq_some_iff vars.nodup_lowered, lookup_lowered] at hmem
    exact ⟨key, text, hmem, hbad⟩
  refine ⟨hfound, ?_⟩
  rintro ⟨key, text, htext, hbad⟩
  have hlist := (decode_eq_error_iff.mp hbad).2.2.encodingOf_ne
  cases hnested : nested json part vars.lowered [] with
  | error g =>
      -- the same key, and so the same variable
      obtain ⟨key', text', htext', hbad'⟩ := hfound hnested
      cases eq_of_encodingOf hlist
        (decode_eq_error_iff.mp hbad').2.2.encodingOf_ne
      cases htext.symm.trans htext'
      cases hbad.symm.trans hbad'
      rfl
  | ok out =>
      -- every variable of a key was decoded
      rw [← lookup_lowered] at htext
      obtain ⟨v, hv, -⟩ := get?_nested_of_lookup hnested vars.nodup_lowered
        (isWhole_of_encodingOf hlist) htext
      cases hv.symm.trans hbad

/-- Where no variable makes them pointless, single keys fail as a section
does. -/
theorem nested_eq_error_iff
    (hwhole : ∀ whole, vars.text? (mark ++ part) = some whole →
      ∃ given, json whole = .value (.map given)) :
    nested json part vars.lowered [] = .error f
      ↔ Garbled json vars part f := by
  rw [nested_lowered_eq_error_iff]
  constructor
  · rintro ⟨key, text, htext, hbad⟩
    obtain ⟨hempty, hunread, hcounts⟩ := decode_eq_error_iff.mp hbad
    exact .key hwhole htext hempty hunread hcounts
  · intro h
    cases h with
    | whole htext hunread =>
        obtain ⟨given, hgiven⟩ := hwhole _ htext
        cases hunread with
        | malformed h => cases hgiven.symm.trans h
        | raised h => cases hgiven.symm.trans h
    | key _ htext hempty hunread hcounts =>
        exact ⟨_, _, htext,
          decode_eq_error_iff.mpr ⟨hempty, hunread, hcounts⟩⟩

/-- A variable of the whole section that gives no mapping alone decides. -/
theorem garbled_iff_unread (htext : vars.text? (mark ++ part) = some text)
    (hmap : ¬∃ given, json text = .value (.map given)) :
    Garbled json vars part f ↔ Unread json part text f := by
  refine ⟨fun h => ?_, .whole htext⟩
  cases h with
  | whole hwhole hunread =>
      cases htext.symm.trans hwhole
      exact hunread
  | key hgiven _ _ _ _ => exact absurd (hgiven text htext) hmap

theorem sectionValue_eq_error_iff :
    sectionValue json vars.lowered part = .error f
      ↔ Garbled json vars part f := by
  rw [sectionValue, lookup_lowered]
  cases htext : vars.text? (mark ++ part) with
  | none =>
      dsimp only
      rw [bind_pure_eq_error]
      refine nested_eq_error_iff fun whole hwhole => ?_
      cases htext.symm.trans hwhole
  | some text =>
      dsimp only
      cases hread : json text with
      | malformed reason =>
          rw [garbled_iff_unread htext (by simp [hread]), unread_iff, hread]
          simp [eq_comm]
      | raised e =>
          rw [garbled_iff_unread htext (by simp [hread]), unread_iff, hread]
          simp [eq_comm]
      | value v =>
          cases v with
          | map given =>
              dsimp only
              rw [bind_pure_eq_error]
              refine nested_eq_error_iff fun whole hwhole => ?_
              cases htext.symm.trans hwhole
              exact ⟨given, hread⟩
          | _ =>
              rw [garbled_iff_unread htext (by simp [hread]), unread_iff,
                hread]
              simp

/-- The section on logging is read first. -/
theorem settings_eq_error_iff :
    vars.settings json = .error f
      ↔ ∃ part, IsSection part ∧ Garbled json vars part f
        ∧ (part = "extraction" → ∀ g, ¬Garbled json vars "logging" g) := by
  rw [settings]
  constructor
  · intro h
    rcases error_of_bind_eq_error h with hlogging | ⟨_, hlogging, h⟩
    · refine ⟨"logging", .inl rfl, sectionValue_eq_error_iff.mp hlogging,
        fun hother => ?_⟩
      exact absurd hother (by decide)
    · rw [bind_pure_eq_error] at h
      refine ⟨"extraction", .inr rfl, sectionValue_eq_error_iff.mp h,
        fun _ g hfirst => ?_⟩
      rw [sectionValue_eq_error_iff.mpr hfirst] at hlogging
      cases hlogging
  · rintro ⟨part, rfl | rfl, hgarbled, hfirst⟩
    · rw [sectionValue_eq_error_iff.mpr hgarbled]
      rfl
    · cases hlogging : sectionValue json vars.lowered "logging" with
      | error g =>
          exact absurd (sectionValue_eq_error_iff.mp hlogging)
            (hfirst rfl g)
      | ok o =>
          rw [sectionValue_eq_error_iff.mpr hgarbled]
          rfl

theorem exists_settings
    (h : ∀ part f, IsSection part → ¬Garbled json vars part f) :
    ∃ entries, vars.settings json = .ok entries := by
  cases hsettings : vars.settings json with
  | ok entries => exact ⟨entries, rfl⟩
  | error f =>
      obtain ⟨part, hpart, hgarbled, -⟩ := settings_eq_error_iff.mp hsettings
      exact absurd hgarbled (h part f hpart)

/-- The sections of the environment have texts for names. -/
theorem isSome_text?_of_settings (h : vars.settings json = .ok entries)
    {k : Key} (hk : k ∈ entries.keys) : k.text?.isSome = true := by
  rw [settings] at h
  obtain ⟨logging, -, h⟩ := exists_of_bind_eq_ok h
  obtain ⟨extraction, -, h⟩ := exists_of_bind_eq_ok h
  cases h
  have hname : k = .text "logging" ∨ k = .text "extraction" := by
    cases logging <;> cases extraction <;> simp [Entries.keys] at hk <;>
      simp [hk]
  rcases hname with rfl | rfl <;> rfl

end Environment

end Outline
