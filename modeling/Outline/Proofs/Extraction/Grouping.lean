/-
Which captures become anchors, whatever the order they are handed out in.

An engine keeps the captures of a match in a table by name, names in the
order of their first appearance, and hands the table out as one list. So
captures under one name come together, and a choice that goes by what
comes first may be another one afterwards. It is the same if whatever may
be chosen stands under a name that is led by something that may be chosen
(`Led`, `find?_grouped`): then the first one is the head of its group, and
no group before it has anything to offer. The choice of a name is of this
kind, and that of a definition is if every node is accepted, or if each
name is there once.

The other half is about captures that are put in. One capture at a place
where the choice passes over it changes nothing (`Idle`), and by induction
any number of them does not (`Padded`).
-/
import Mathlib.Data.List.Find
import Mathlib.Data.List.Nodup
import Outline.Match

namespace Outline

namespace Capture

-- ================================================================ tables

/-- Nodes by the name they were captured under. -/
abbrev Table := List (String × List (Option NodeId))

namespace Table

/-- A table with one capture more: behind the others under its name, or
at the end of the table if the name is new. -/
def add (c : Capture) : Table → Table
  | [] => [(c.name, [c.node])]
  | (name, nodes) :: rest =>
    if name = c.name then (name, nodes ++ [c.node]) :: rest
    else (name, nodes) :: add c rest

/-- The table of captures that come in order. -/
def ofCaptures (captures : List Capture) : Table :=
  captures.foldl (fun t c => Table.add c t) []

/-- A table as one list. -/
def captures (t : Table) : List Capture :=
  t.flatMap fun (name, nodes) => nodes.map (⟨name, ·⟩)

end Table

/-- Captures in order of their names: a group is taken off the list, and
the rest is grouped. -/
theorem grouping_induction {motive : List Capture → Prop} (nil : motive [])
    (cons : ∀ c rest, motive (rest.filter fun d => !d.name == c.name) →
      motive (c :: rest))
    (captures : List Capture) : motive captures := by
  induction hn : captures.length using Nat.strong_induction_on
    generalizing captures with
  | _ n ih =>
      cases captures with
      | nil => exact nil
      | cons c rest =>
          apply cons
          refine ih _ ?_ _ rfl
          have hle := List.length_filter_le (fun d => !d.name == c.name) rest
          rw [List.length_cons] at hn
          omega

theorem grouped_cons (c : Capture) (rest : List Capture) :
    grouped (c :: rest)
      = (c :: rest.filter (·.name == c.name))
        ++ grouped (rest.filter fun d => !d.name == c.name) := by
  unfold grouped
  rw [List.map_cons, List.eraseDups_cons, List.flatMap_cons]
  congr 1
  · simp
  · rw [List.filter_map]
    apply List.flatMap_congr
    intro name hname
    -- a name of the rest is another one, so the first group has none of it
    have hne : (name == c.name) = false := by
      rw [List.mem_eraseDups, List.mem_map] at hname
      obtain ⟨d, hd, rfl⟩ := hname
      simpa using (List.mem_filter.mp hd).2
    have hne' : c.name ≠ name := fun h => by simp [h] at hne
    rw [List.filter_cons_of_neg (by simpa using hne'), List.filter_filter]
    apply List.filter_congr
    intro d _
    by_cases hd : d.name = name
    · simp [hd, hne]
    · simp [hd]

/-- Captures that come behind a group join it if they have its name, and
otherwise go past it. -/
theorem foldl_add_cons (name : String) (nodes : List (Option NodeId))
    (t : Table) (captures : List Capture) :
    captures.foldl (fun t c => Table.add c t) ((name, nodes) :: t)
      = (name, nodes ++ (captures.filter (·.name == name)).map (·.node))
        :: (captures.filter fun d => !d.name == name).foldl
          (fun t c => Table.add c t) t := by
  induction captures generalizing nodes t with
  | nil => simp
  | cons c rest ih =>
      rw [List.foldl_cons, Table.add.eq_def]
      dsimp only
      by_cases hc : name = c.name
      · rw [if_pos hc, ih]
        simp [hc]
      · rw [if_neg hc, ih]
        simp [Ne.symm hc]

/-- The captures of a table are the captures grouped by name. -/
theorem captures_ofCaptures (captures : List Capture) :
    Table.captures (Table.ofCaptures captures) = grouped captures := by
  induction captures using grouping_induction with
  | nil => rfl
  | cons c rest ih =>
      have hgroup : (rest.filter (·.name == c.name)).map
          (fun d => (⟨c.name, d.node⟩ : Capture))
            = rest.filter (·.name == c.name) := by
        calc (rest.filter (·.name == c.name)).map
              (fun d => (⟨c.name, d.node⟩ : Capture))
            = (rest.filter (·.name == c.name)).map id := by
              apply List.map_congr_left
              intro d hd
              have hname : d.name = c.name := by
                simpa using (List.mem_filter.mp hd).2
              rw [← hname]
              rfl
          _ = rest.filter (·.name == c.name) := List.map_id _
      rw [grouped_cons, ← ih, Table.ofCaptures, List.foldl_cons, Table.add,
        foldl_add_cons]
      simp [Table.captures, Table.ofCaptures, hgroup, Function.comp_def]

-- ================================================================ choice

variable {captures before after : List Capture} {c : Capture}
  {f : Capture → Bool}

/-- Whatever may be chosen stands under a name whose first capture may be
chosen. -/
def Led (f : Capture → Bool) (captures : List Capture) : Prop :=
  ∀ c ∈ captures, f c = true →
    ∀ d, captures.find? (·.name == c.name) = some d → f d = true

/-- A choice that looks at the name alone. -/
theorem Led.of_name {g : String → Bool} (hf : ∀ c, f c = g c.name) :
    Led f captures := by
  intro c _ hc d hd
  have hname : d.name = c.name := by simpa using List.find?_some hd
  rw [hf, hname, ← hf, hc]

/-- A choice among captures whose names are there once. -/
theorem Led.of_nodup {p : Capture → Bool} (hf : ∀ c, f c = true → p c = true)
    (hp : ∀ c d, c.name = d.name → p c = p d)
    (hnodup : ((captures.filter p).map (·.name)).Nodup) :
    Led f captures := by
  intro c hc hfc d hd
  have hname : d.name = c.name := by simpa using List.find?_some hd
  have hdp : d ∈ captures.filter p := by
    refine List.mem_filter.mpr ⟨List.mem_of_find?_eq_some hd, ?_⟩
    rw [hp d c hname, hf c hfc]
  have hcp : c ∈ captures.filter p := List.mem_filter.mpr ⟨hc, hf c hfc⟩
  rw [List.inj_on_of_nodup_map hnodup hdp hcp hname, hfc]

/-- The first choice among captures is the first among their groups. -/
theorem find?_grouped (h : Led f captures) :
    (grouped captures).find? f = captures.find? f := by
  induction captures using grouping_induction with
  | nil => rfl
  | cons c rest ih =>
      rw [grouped_cons, List.find?_append, List.find?_cons, List.find?_cons]
      cases hc : f c with
      | true => rfl
      | false =>
          -- `c` leads its group, so nothing in the group may be chosen
          have hother : ∀ d ∈ rest, f d = true → d.name ≠ c.name := by
            intro d hd hfd hname
            have hlead := h d (List.mem_cons_of_mem _ hd) hfd c
              (by simp [hname])
            rw [hc] at hlead
            cases hlead
          have hgroup : (rest.filter (·.name == c.name)).find? f = none := by
            rw [List.find?_eq_none]
            intro d hd hfd
            obtain ⟨hmem, hname⟩ := List.mem_filter.mp hd
            exact hother d hmem hfd (by simpa using hname)
          have hled : Led f (rest.filter fun d => !d.name == c.name) := by
            intro d hd hfd e he
            obtain ⟨hmem, hname⟩ := List.mem_filter.mp hd
            have hname : d.name ≠ c.name := by simpa using hname
            apply h d (List.mem_cons_of_mem _ hmem) hfd e
            rw [List.find?_filter] at he
            rw [List.find?_cons_of_neg (by simpa using Ne.symm hname), ← he]
            apply List.find?_congr
            intro x _
            by_cases hx : x.name = d.name
            · simp [hx, hname]
            · simp [hx]
          simp only [hgroup, Option.none_or]
          rw [ih hled, List.find?_filter]
          apply List.find?_congr
          intro d hd
          cases hfd : f d with
          | false => simp
          | true => simpa using hother d hd hfd

/-- What is put in behind a choice, or may not be chosen, is passed
over. -/
theorem find?_insert (h : f c = false ∨ ∃ d ∈ before, f d = true) :
    (before ++ c :: after).find? f = (before ++ after).find? f := by
  rw [List.find?_append, List.find?_append]
  rcases h with hc | ⟨d, hd, hfd⟩
  · rw [List.find?_cons_of_neg (by simp [hc])]
  · obtain ⟨e, he⟩ := Option.isSome_iff_exists.mp
      (List.find?_isSome.mpr ⟨d, hd, hfd⟩)
    rw [he, Option.some_or, Option.some_or]

end Capture

-- ================================================================ anchors

namespace Anchors

open Capture

variable {tracked : Option (Option NodeId → Bool)}
  {captures before after : List Capture} {c : Capture}

/-- Whether a capture may be chosen for the definition: it has another
name than `name`, and its node is accepted. -/
def eligible (tracked : Option (Option NodeId → Bool)) (c : Capture) : Bool :=
  !c.isName && (match tracked with
    | none => true
    | some accepts => accepts c.node)

theorem eligible_none (c : Capture) : eligible none c = !c.isName :=
  Bool.and_true _

theorem eligible_of_isName (h : c.isName = true) :
    eligible tracked c = false := by
  simp [eligible, h]

theorem select_name_grouped :
    (select tracked (grouped captures)).name
      = (select tracked captures).name :=
  find?_grouped (.of_name (g := (· == nameCapture)) fun _ => rfl)

/-- The definition stays the same where every node is accepted, or where
no name but `name` is there twice. -/
theorem select_definition_grouped
    (h : tracked = none
      ∨ ((captures.filter (!·.isName)).map (·.name)).Nodup) :
    (select tracked (grouped captures)).definition
      = (select tracked captures).definition := by
  show (grouped captures).find? (eligible tracked)
    = captures.find? (eligible tracked)
  apply find?_grouped
  rcases h with rfl | hnodup
  · exact .of_name (g := fun name => !(name == nameCapture)) eligible_none
  · apply Led.of_nodup _ _ hnodup
    · intro c hc
      unfold eligible at hc
      exact (Bool.and_eq_true_iff.mp hc).1
    · intro c d hname
      simp [Capture.isName, hname]

/-- A capture that the choice of anchors passes over if it is put in
behind `before`: one on a node that is not accepted; one called `name`
with another such before it; or one under another name with the chosen
definition before it. -/
inductive Idle (tracked : Option (Option NodeId → Bool))
    (before : List Capture) : Capture → Prop where
  | rejected {c : Capture} {accepts : Option NodeId → Bool} :
      tracked = some accepts → c.isName = false → accepts c.node = false →
      Idle tracked before c
  | laterName {c first : Capture} : c.isName = true → first ∈ before →
      first.isName = true → Idle tracked before c
  | laterOther {c chosen : Capture} : c.isName = false → chosen ∈ before →
      eligible tracked chosen = true → Idle tracked before c

/-- Captures to which some were added, one after the other, that the
choice of anchors passes over. -/
inductive Padded (tracked : Option (Option NodeId → Bool))
    (captures : List Capture) : List Capture → Prop where
  | nothing : Padded tracked captures captures
  | insert {before after : List Capture} {c : Capture} :
      Padded tracked captures (before ++ after) → Idle tracked before c →
      Padded tracked captures (before ++ c :: after)

theorem Idle.select_eq (h : Idle tracked before c) :
    select tracked (before ++ c :: after)
      = select tracked (before ++ after) := by
  have hboth : ∀ {f : Capture → Bool}, f = eligible tracked ∨ f = isName →
      (f c = false ∨ ∃ d ∈ before, f d = true) := by
    rintro f (rfl | rfl)
    · cases h with
      | rejected htracked hname hnode =>
          left
          simp [eligible, htracked, hnode]
      | laterName hname _ _ => exact .inl (eligible_of_isName hname)
      | laterOther _ hmem hchosen => exact .inr ⟨_, hmem, hchosen⟩
    · cases h with
      | rejected _ hname _ => exact .inl hname
      | laterName _ hmem hfirst => exact .inr ⟨_, hmem, hfirst⟩
      | laterOther hname _ _ => exact .inl hname
  show (⟨_, _⟩ : Anchors) = ⟨_, _⟩
  congr 1
  · exact find?_insert (hboth (.inl rfl))
  · exact find?_insert (hboth (.inr rfl))

theorem Padded.select_eq {more : List Capture}
    (h : Padded tracked captures more) :
    select tracked more = select tracked captures := by
  induction h with
  | nothing => rfl
  | insert _ hidle ih => rw [hidle.select_eq, ih]

/-- Captures that are handed out from the table they were kept in have
the name anchor they had; they have the definition anchor they had if
every node is accepted, or if no name but `name` is there twice. And
neither anchor changes when captures are put in that the choice passes
over. -/
theorem select_unmoved_by_grouping_and_padding
    (tracked : Option (Option NodeId → Bool)) (captures : List Capture) :
    Table.captures (Table.ofCaptures captures) = grouped captures
    ∧ (select tracked (grouped captures)).name
        = (select tracked captures).name
    ∧ (tracked = none
        ∨ ((captures.filter (!·.isName)).map (·.name)).Nodup →
      (select tracked (grouped captures)).definition
        = (select tracked captures).definition)
    ∧ ∀ more, Padded tracked captures more →
      select tracked more = select tracked captures :=
  ⟨captures_ofCaptures captures, select_name_grouped,
    select_definition_grouped, fun _ h => h.select_eq⟩

/-- A function with a body and two names, and captures that the choice
passes over in front, in between and at the end. -/
theorem select_unmoved_by_grouping_and_padding_noted :
    let accepts : Option NodeId → Bool := (· != some 9)
    let found : List Capture := [⟨"name", some 1⟩, ⟨"function", some 0⟩,
      ⟨"name", some 2⟩, ⟨"body", some 3⟩]
    let anchors : Anchors := ⟨some ⟨"function", some 0⟩, some ⟨"name", some 1⟩⟩
    grouped found ≠ found
    ∧ select (some accepts) (grouped found) = anchors
    ∧ select (some accepts) (⟨"note", some 9⟩ :: found
        ++ [⟨"name", some 4⟩, ⟨"function", some 5⟩]) = anchors := by
  intro accepts found anchors
  obtain ⟨-, hname, hdefinition, hpadded⟩ :=
    select_unmoved_by_grouping_and_padding (some accepts) found
  refine ⟨by decide, ?_, ?_⟩
  · have hdefinition := hdefinition (.inr (by decide))
    calc select (some accepts) (grouped found)
        = ⟨(select (some accepts) (grouped found)).definition,
          (select (some accepts) (grouped found)).name⟩ := rfl
      _ = ⟨(select (some accepts) found).definition,
          (select (some accepts) found).name⟩ := by rw [hname, hdefinition]
      _ = anchors := rfl
  · have hfunction : ⟨"function", some 0⟩
        ∈ (⟨"note", some 9⟩ :: found ++ [⟨"name", some 4⟩] : List Capture) := by
      decide
    have hfirst : ⟨"name", some 1⟩
        ∈ (⟨"note", some 9⟩ :: found : List Capture) := by
      decide
    have hnote : Padded (some accepts) found ([] ++ ⟨"note", some 9⟩ :: found) :=
      .insert .nothing (.rejected rfl rfl rfl)
    have hlater : Padded (some accepts) found
        (⟨"note", some 9⟩ :: found ++ [⟨"name", some 4⟩]) := by
      refine .insert ?_ (.laterName rfl hfirst rfl)
      rw [List.append_nil]
      exact hnote
    have hmore : Padded (some accepts) found
        ((⟨"note", some 9⟩ :: found ++ [⟨"name", some 4⟩])
          ++ [⟨"function", some 5⟩]) := by
      refine .insert ?_ (.laterOther rfl hfunction rfl)
      rw [List.append_nil]
      exact hlater
    exact hpadded _ hmore

-- with a name that is there twice and a node that is not accepted, a
-- grouping can change the definition
example : (select (some (· != some 9)) [⟨"function", some 9⟩,
      ⟨"class", some 1⟩, ⟨"function", some 2⟩]).definition
        = some ⟨"class", some 1⟩
    ∧ (select (some (· != some 9)) (grouped [⟨"function", some 9⟩,
      ⟨"class", some 1⟩, ⟨"function", some 2⟩])).definition
        = some ⟨"function", some 2⟩ := by
  decide

end Anchors

end Outline
