/-
What the environment says of a key.

Variables are read in one pass: names are lower-cased, names of a section
are cut at their double underscores, and each value is put where its path
leads, into whatever the variables before it have made of the section.
At the end the keys are lower-cased once more to be recognised. For a key
it comes to this: the last variable of its name counts, in whatever case
it is written (`value?`), unless a longer path has made a mapping of the
key.

The pass is taken apart into what one variable does (`Gives`): it sets a
key, or it goes below one, or it is none of the section's. What it leaves
under a key (`Gives.get?`), and that all keys are lower-cased already and
distinct (`Gives.settled`), is carried through the pass by induction.
-/
import Mathlib.Data.List.Induction
import Outline.Proofs.Text.Lower
import Outline.Proofs.Value.Overlay
import Outline.Proofs.Yaml.Distinct
import Outline.Settings.Environment

namespace Outline

/-- The sections that settings have. -/
def IsSection (part : String) : Prop :=
  part = "logging" ∨ part = "extraction"

namespace Environment

open Keyed

variable {json : String → Reading} {part name text key : String}
  {vars : Environment} {entries out : Entries}

/-- The name of the variable of a key, in lower case. -/
def nameOf (part key : String) : String := mark ++ part ++ "__" ++ key

/-- The text of the last variable with a name, in whatever case. -/
def text? (vars : Environment) (name : String) : Option String :=
  (vars.reverse.find? fun v => Text.lower v.1 = name).map (·.2)

/-- What the variables give for a key of a section. -/
def value? (json : String → Reading) (vars : Environment)
    (part key : String) : Option Value :=
  (vars.text? (nameOf part key)).bind fun text =>
    (decode json part key text).toOption

-- ================================================================== names

/-- Among distinct names a variable takes the place of the one with its
name, or the last place. -/
theorem replaced_eq_put {out : Environment} (h : (keys out).Nodup)
    (name text : String) :
    (if (out.lookup name).isSome then
        out.map fun (n, t) => if n = name then (n, text) else (n, t)
      else out ++ [(name, text)]) = put name text out := by
  induction out with
  | nil => rfl
  | cons v rest ih =>
      obtain ⟨other, t⟩ := v
      obtain ⟨hnew, hrest⟩ := List.nodup_cons.mp h
      rw [put, lookup_cons]
      by_cases hname : other = name
      · -- the name stands nowhere else
        subst hname
        have hkeep : (rest.map fun (n, t) =>
            if n = other then (n, text) else (n, t)) = rest := by
          refine (List.map_congr_left fun w hw => ?_).trans (List.map_id rest)
          refine if_neg ?_
          rintro rfl
          exact hnew (List.mem_map.mpr ⟨w, hw, rfl⟩)
        simp [hkeep]
      · rw [if_neg (Ne.symm hname), if_neg hname, ← ih hrest]
        split
        next => simp [hname]
        next => rfl

theorem lowered_concat_of_nodup (h : (keys vars.lowered).Nodup)
    (v : String × String) :
    lowered (vars ++ [v]) = put (Text.lower v.1) v.2 vars.lowered := by
  have hstep := replaced_eq_put h (Text.lower v.1) v.2
  rw [lowered, List.foldl_append] at *
  exact hstep

theorem nodup_lowered (vars : Environment) : (keys vars.lowered).Nodup := by
  induction vars using List.reverseRecOn with
  | nil => exact List.nodup_nil
  | append_singleton vars v ih =>
      rw [lowered_concat_of_nodup ih]
      exact nodup_put ih _ _

/-- One more variable is put in its place under its lower-cased name. -/
theorem lowered_concat (vars : Environment) (v : String × String) :
    lowered (vars ++ [v]) = put (Text.lower v.1) v.2 vars.lowered :=
  lowered_concat_of_nodup vars.nodup_lowered v

/-- Of several variables of one name the last counts. -/
theorem lookup_lowered (vars : Environment) (name : String) :
    vars.lowered.lookup name = vars.text? name := by
  induction vars using List.reverseRecOn with
  | nil => rfl
  | append_singleton vars v ih =>
      rw [lowered_concat, lookup_put, ih, text?, text?, List.reverse_concat,
        List.find?_cons]
      by_cases hname : name = Text.lower v.1
      · rw [if_pos hname, decide_eq_true hname.symm]
        rfl
      · rw [if_neg hname, decide_eq_false (Ne.symm hname)]

theorem exists_raw_of_mem_lowered (h : name ∈ keys vars.lowered) :
    ∃ raw, name = Text.lower raw := by
  induction vars using List.reverseRecOn with
  | nil => cases h
  | append_singleton vars v ih =>
      rw [lowered_concat, keys_put] at h
      split at h
      next => exact ih h
      next =>
        rcases List.mem_append.mp h with h | h
        · exact ih h
        · exact ⟨v.1, List.mem_singleton.mp h⟩

/-- Whether a key is not cut when it is read as part of a name. -/
def IsWhole (key : String) : Prop := splitName [] key.toList = [key]

theorem splitName_ne_nil (read cs : List Char) : splitName read cs ≠ [] := by
  fun_induction splitName read cs with
  | case1 => exact nofun
  | case2 => exact nofun
  | case3 _ _ _ _ ih => exact ih

/-- A name that is not cut is one part. -/
theorem eq_of_splitName_eq_singleton {read cs : List Char} {s : String}
    (h : splitName read cs = [s]) : s = String.ofList (read ++ cs) := by
  fun_induction splitName read cs with
  | case1 read =>
      rw [List.append_nil]
      exact (List.singleton_inj.mp h).symm
  | case2 read rest _ =>
      exact absurd (List.cons.inj h).2 (splitName_ne_nil [] rest)
  | case3 read c rest _ ih => simpa using ih h

theorem mem_of_mem_splitName {read cs : List Char} {s : String}
    (h : s ∈ splitName read cs) {c : Char} (hc : c ∈ s.toList) :
    c ∈ read ++ cs := by
  fun_induction splitName read cs with
  | case1 read =>
      rw [List.mem_singleton.mp h, String.toList_ofList] at hc
      exact List.mem_append_left [] hc
  | case2 read rest ih =>
      rcases List.mem_cons.mp h with rfl | h
      · rw [String.toList_ofList] at hc
        exact List.mem_append_left _ hc
      · have hrest := ih h
        rw [List.nil_append] at hrest
        simp [hrest]
  | case3 read d rest _ ih => simpa using ih h

theorem toList_nameOf (part key : String) :
    (nameOf part key).toList = (mark ++ part ++ "__").toList ++ key.toList := by
  rw [nameOf, String.toList_append]

theorem nameOf_injective (part : String) : (nameOf part).Injective := by
  intro k k' h
  have hchars := congrArg String.toList h
  rw [toList_nameOf, toList_nameOf] at hchars
  exact String.toList_injective (List.append_cancel_left hchars)

-- ============================================================ one variable

/-- What one variable does to the keys of a section that were given
before it: it sets a key, or puts something below a key, or has nothing
to do with the section. -/
inductive Gives (json : String → Reading) (part name text : String) (entries : Entries) :
    Entries → Prop where
  | key {k : String} {v : Value} :
      name = nameOf part k → decode json part k text = .ok v →
      Gives json part name text entries (put (.text k) v entries)
  | below {k : String} {path : List String} {last : String} :
      (∀ c ∈ k.toList, c ∈ name.toList) →
      (∀ key, IsWhole key → name ≠ nameOf part key) →
      Gives json part name text entries
        (setPath entries (k :: path) last (.text text))
  | other : (∀ key, name ≠ nameOf part key) →
      Gives json part name text entries entries

theorem nested_cons {rest : Environment}
    (h : nested json part ((name, text) :: rest) entries = .ok out) :
    ∃ given, Gives json part name text entries given
      ∧ nested json part rest given = .ok out := by
  rw [nested] at h
  dsimp only at h
  split at h
  next hstart =>
    obtain ⟨tail, htail⟩ := List.isPrefixOf_iff_prefix.mp hstart
    rw [← htail, List.drop_left] at h
    have hwhole : ∀ key, name = nameOf part key → key.toList = tail := by
      intro key hname
      rw [hname, toList_nameOf] at htail
      exact (List.append_cancel_left htail).symm
    cases hparts : splitName [] tail with
    | nil => exact absurd hparts (splitName_ne_nil [] tail)
    | cons k more =>
        rw [hparts] at h
        cases more with
        | nil =>
            -- the name ends with its key
            have hk := eq_of_splitName_eq_singleton hparts
            have hname : name = nameOf part k := by
              apply String.toList_injective
              rw [toList_nameOf, ← htail, hk, String.toList_ofList]
              rfl
            obtain ⟨v, hv, hrest⟩ := exists_of_bind_eq_ok h
            exact ⟨_, .key hname hv, hrest⟩
        | cons second others =>
            refine ⟨setPath entries (k :: (second :: others).dropLast) _
              (.text text), .below ?_ ?_, h⟩
            · intro c hc
              rw [← htail]
              exact List.mem_append_right _ (mem_of_mem_splitName
                (hparts ▸ List.mem_cons_self) hc)
            · intro key hkey hname
              rw [IsWhole, hwhole key hname, hparts] at hkey
              cases hkey
  next hstart =>
    refine ⟨entries, .other fun key hname => hstart ?_, h⟩
    rw [hname, toList_nameOf]
    exact List.isPrefixOf_iff_prefix.mpr (List.prefix_append _ _)

/-- Whether a mapping stands under a key. -/
def HasMap (entries : Entries) (key : String) : Prop :=
  ∃ inner, entries.get? (.text key) = some (.map inner)

/-- A path through a key leaves what is there, or a mapping. -/
theorem get?_setPath (entries : Entries) (k : String) (path : List String)
    (last : String) (v : Value) (key : String) :
    (setPath entries (k :: path) last v).get? (.text key)
        = entries.get? (.text key)
      ∨ HasMap (setPath entries (k :: path) last v) key := by
  have hinsert : ∀ inner,
      Entries.get? (put (.text k) (.map inner) entries) (.text key)
          = entries.get? (.text key)
        ∨ HasMap (put (.text k) (.map inner) entries) key := by
    intro inner
    rw [HasMap, Entries.get?_put]
    by_cases hkey : Key.text key = .text k
    · rw [if_pos hkey]
      exact .inr ⟨inner, rfl⟩
    · rw [if_neg hkey]
      exact .inl rfl
  rw [setPath]
  split
  next => exact hinsert _
  next => exact hinsert _
  next => exact .inl rfl

namespace Gives

variable {given : Entries}

/-- The variable of a key sets it. -/
theorem get?_of_name (h : Gives json part name text entries given)
    (hkey : IsWhole key) (hname : name = nameOf part key) :
    ∃ v, decode json part key text = .ok v
      ∧ given.get? (.text key) = some v := by
  cases h with
  | key hk hv =>
      cases nameOf_injective part (hk.symm.trans hname)
      exact ⟨_, hv, by rw [Entries.get?_put, if_pos rfl]⟩
  | below _ hother => exact absurd hname (hother key hkey)
  | other hother => exact absurd hname (hother key)

/-- All other variables leave what is there, or a mapping. -/
theorem get?_of_ne (h : Gives json part name text entries given)
    (hname : name ≠ nameOf part key) :
    given.get? (.text key) = entries.get? (.text key) ∨ HasMap given key := by
  cases h with
  | key hk _ =>
      rw [Entries.get?_put, if_neg]
      · exact .inl rfl
      · rintro ⟨⟩
        exact hname hk
  | below => exact get?_setPath entries _ _ _ _ key
  | other => exact .inl rfl

end Gives

-- ========================================================== all variables

/-- Without a variable of its own a key has what it had, or a mapping. -/
theorem get?_nested_of_not_mem (h : nested json part vars entries = .ok out)
    (hname : nameOf part key ∉ keys vars) :
    out.get? (.text key) = entries.get? (.text key) ∨ HasMap out key := by
  induction vars generalizing entries with
  | nil =>
      cases h
      exact .inl rfl
  | cons v rest ih =>
      obtain ⟨given, hgives, hrest⟩ := nested_cons h
      rw [keys, List.map_cons, List.mem_cons, not_or] at hname
      rcases ih hrest hname.2 with hout | hout
      · rcases hgives.get?_of_ne (Ne.symm hname.1) with hgiven | hgiven
        · exact .inl (hout.trans hgiven)
        · rw [HasMap, hout]
          exact .inr hgiven
      · exact .inr hout

/-- A key with a variable of its own has the value of that variable, or a
mapping. -/
theorem get?_nested_of_lookup (h : nested json part vars entries = .ok out)
    (hvars : (keys vars).Nodup) (hkey : IsWhole key)
    (htext : vars.lookup (nameOf part key) = some text) :
    ∃ v, decode json part key text = .ok v
      ∧ (out.get? (.text key) = some v ∨ HasMap out key) := by
  induction vars generalizing entries with
  | nil => cases htext
  | cons v rest ih =>
      obtain ⟨name, other⟩ := v
      obtain ⟨given, hgives, hrest⟩ := nested_cons h
      obtain ⟨hnew, hdistinct⟩ := List.nodup_cons.mp hvars
      rw [lookup_cons] at htext
      split at htext
      next hname =>
        cases htext
        obtain ⟨v, hv, hgiven⟩ := hgives.get?_of_name hkey hname.symm
        have hout := get?_nested_of_not_mem hrest (hname ▸ hnew)
        rw [hgiven] at hout
        exact ⟨v, hv, hout⟩
      next hname => exact ih hrest hdistinct htext

/-- Where the variables of a section make no mapping of a key, it has what
the last variable of its name gives. -/
theorem get?_nested_lowered (h : nested json part vars.lowered [] = .ok out)
    (hkey : IsWhole key) (hplain : ¬HasMap out key) :
    out.get? (.text key) = vars.value? json part key := by
  rw [value?, ← lookup_lowered]
  cases htext : vars.lowered.lookup (nameOf part key) with
  | none =>
      have hout := get?_nested_of_not_mem h (lookup_eq_none_iff.mp htext)
      exact hout.resolve_right hplain
  | some text =>
      obtain ⟨v, hv, hout⟩ :=
        get?_nested_of_lookup h vars.nodup_lowered hkey htext
      rw [hout.resolve_right hplain, Option.bind_some, hv]
      rfl

-- =============================================================== spelling

theorem isPlain_of_mem_keysOf {f : String} (h : f ∈ keysOf part) :
    ∀ c ∈ f.toList, Text.isPlain c = true := by
  have hall : ∀ fields : List String,
      (fields.all fun f => f.toList.all Text.isPlain) = true →
      f ∈ fields → ∀ c ∈ f.toList, Text.isPlain c = true :=
    fun fields hfields hf =>
      List.all_eq_true.mp (List.all_eq_true.mp hfields f hf)
  unfold keysOf at h
  split at h
  next => exact hall _ (by decide) h
  next => exact hall _ (by decide) h
  next => cases h

/-- The keys of a section that need no other spelling: they are distinct
texts, and lower-casing makes none of them a key of the section that it
is not already. -/
structure Settled (part : String) (entries : Entries) : Prop where
  nodup : entries.keys.Nodup
  spelling : ∀ k ∈ entries.keys, ∃ s, k = .text s
    ∧ ∀ f ∈ keysOf part, Text.lower s = f → s = f

theorem Settled.put (h : Settled part entries) {s : String}
    (hs : ∀ f ∈ keysOf part, Text.lower s = f → s = f) (v : Value) :
    Settled part (Keyed.put (.text s) v entries) := by
  refine ⟨nodup_put h.nodup _ _, fun k hk => ?_⟩
  rw [Entries.keys, ← Keyed.keys, keys_put] at hk
  split at hk
  next => exact h.spelling k hk
  next =>
    rcases List.mem_append.mp hk with hk | hk
    · exact h.spelling k hk
    · exact ⟨s, List.mem_singleton.mp hk, hs⟩

/-- A lower-cased variable adds keys that need no other spelling. -/
theorem Gives.settled {given : Entries} {raw : String}
    (h : Gives json part (Text.lower raw) text entries given)
    (hentries : Settled part entries) : Settled part given := by
  have hspelled : ∀ k : String,
      (∀ c ∈ k.toList, c ∈ (Text.lower raw).toList) →
      ∀ f ∈ keysOf part, Text.lower k = f → k = f := fun k hk f hf hlower =>
    Text.eq_of_lower_eq hk (isPlain_of_mem_keysOf hf) hlower
  cases h with
  | @key k v hname _ =>
      refine hentries.put (hspelled k fun c hc => ?_) v
      rw [hname, toList_nameOf]
      exact List.mem_append_right _ hc
  | below hk _ =>
      rw [setPath]
      split
      next => exact hentries.put (hspelled _ hk) _
      next => exact hentries.put (hspelled _ hk) _
      next => exact hentries
  | other => exact hentries

theorem settled_nested (h : nested json part vars entries = .ok out)
    (hvars : ∀ name ∈ keys vars, ∃ raw, name = Text.lower raw)
    (hentries : Settled part entries) : Settled part out := by
  induction vars generalizing entries with
  | nil =>
      cases h
      exact hentries
  | cons v rest ih =>
      obtain ⟨name, text⟩ := v
      obtain ⟨given, hgives, hrest⟩ := nested_cons h
      obtain ⟨⟨raw, hraw⟩, hothers⟩ := List.forall_mem_cons.mp hvars
      cases hraw
      exact ih hrest hothers (hgives.settled hentries)

/-- Keys that need no other spelling keep their values. -/
theorem Settled.get?_spelled (h : Settled part entries) (k : Key) :
    (spelled part entries).get? k = entries.get? k := by
  have hsame : spelled part entries = Entries.ofList entries := by
    unfold spelled
    congr 1
    refine (List.map_congr_left fun e he => ?_).trans (List.map_id entries)
    obtain ⟨k, v⟩ := e
    obtain ⟨s, hs, hsettled⟩ := h.spelling k (List.mem_map.mpr ⟨_, he, rfl⟩)
    cases hs
    dsimp only [id]
    split
    next f hf =>
      have hlower := List.find?_some hf
      rw [hsettled f (List.mem_of_find?_eq_some hf) (beq_iff_eq.mp hlower).symm]
    next => rfl
  rw [hsame, Entries.get?_ofList h.nodup]
  rfl

-- =============================================================== sections

/-- No variable gives the whole section at once. -/
def OnlyKeys (vars : Environment) (part : String) : Prop :=
  ∀ v ∈ vars, Text.lower v.1 ≠ mark ++ part

theorem OnlyKeys.lookup_lowered (h : vars.OnlyKeys part) :
    vars.lowered.lookup (mark ++ part) = none := by
  rw [Environment.lookup_lowered, text?, Option.map_eq_none_iff,
    List.find?_eq_none]
  intro v hv
  rw [decide_eq_true_eq]
  exact h v (List.mem_reverse.mp hv)

/-- A section that single variables give has, under a key that is no
mapping, what the last variable of that key gives. -/
theorem at?_sectionValue {o : Option Value}
    (h : sectionValue json vars.lowered part = .ok o) (honly : vars.OnlyKeys part)
    (hkey : IsWhole key)
    (hplain : ∀ given, o = some (.map given) → ¬HasMap given key) :
    (o.bind fun v => v.at? [.text key]) = vars.value? json part key := by
  rw [sectionValue, honly.lookup_lowered] at h
  dsimp only at h
  obtain ⟨given, hnested, h⟩ := exists_of_bind_eq_ok h
  have hsettled : Settled part given :=
    settled_nested hnested (fun _ => exists_raw_of_mem_lowered)
      ⟨List.nodup_nil, fun _ hk => nomatch hk⟩
  cases given with
  | nil =>
      cases h
      exact get?_nested_lowered hnested hkey (fun hmap => nomatch hmap)
  | cons e rest =>
      cases h
      have hget := hsettled.get?_spelled (.text key)
      have hout := get?_nested_lowered hnested hkey
        (by rw [HasMap, ← hget]; exact hplain _ rfl)
      rw [← hout, ← hget]
      exact Value.at?_map_singleton _ _

/-- A section has distinct keys. -/
theorem nodup_sectionValue {given : Entries}
    (h : sectionValue json vars part = .ok (some (.map given))) :
    given.keys.Nodup := by
  rw [sectionValue] at h
  split at h
  next =>
    split at h
    next => cases h
    next => cases h
    next => cases h
    next =>
      obtain ⟨keys, -, h⟩ := exists_of_bind_eq_ok h
      cases h
      exact Entries.nodup_ofList _
    next hmap _ =>
      cases h
      exact absurd rfl (hmap given)
  next =>
    obtain ⟨keys, -, h⟩ := exists_of_bind_eq_ok h
    cases keys with
    | nil => cases h
    | cons e rest =>
        cases h
        exact Entries.nodup_ofList _

/-- The environment gives each section what its variables say. -/
theorem get?_settings (h : vars.settings json = .ok entries)
    (hpart : IsSection part) :
    sectionValue json vars.lowered part = .ok (entries.get? (.text part)) := by
  rw [settings] at h
  obtain ⟨logging, hlogging, h⟩ := exists_of_bind_eq_ok h
  obtain ⟨extraction, hextraction, h⟩ := exists_of_bind_eq_ok h
  cases h
  rcases hpart with rfl | rfl
  · rw [hlogging]
    cases logging <;> cases extraction <;> rfl
  · rw [hextraction]
    cases logging <;> cases extraction <;> rfl

theorem nodup_settings (h : vars.settings json = .ok entries) :
    entries.keys.Nodup := by
  rw [settings] at h
  obtain ⟨logging, -, h⟩ := exists_of_bind_eq_ok h
  obtain ⟨extraction, -, h⟩ := exists_of_bind_eq_ok h
  cases h
  cases logging <;> cases extraction <;> simp [Entries.keys]

/-- Where the environment makes no mapping of a key, it gives what the
last variable of that key gives. -/
theorem at?_settings (h : vars.settings json = .ok entries)
    (hpart : IsSection part) (honly : vars.OnlyKeys part) (hkey : IsWhole key)
    (hplain : ∀ given, entries.get? (.text part) = some (.map given) →
      ¬HasMap given key) :
    (Value.map entries).at? [.text part, .text key]
      = vars.value? json part key := by
  rw [Value.at?, Entries.value?_text]
  exact at?_sectionValue (get?_settings h hpart) honly hkey hplain

end Environment

end Outline
