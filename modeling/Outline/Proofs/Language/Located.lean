/-
Languages whose names lie below their definitions.

A language that is well marked captures a definition and a name, and here
the routes of its patterns say where the one lies from the other. What
matters of a route to a name is its end, from the definition on
(`Route.fromDefinition`). A language is located if each such end has a
step below the definition: then a name is a proper descendant of its
definition (`exists_definition_route`).

A language is unambiguous if its patterns are determined by the name and
no two of them can meet at one definition and one name: the names are at
different distances, or the tests of the two definitions exclude each
other, or those of children under a single label do. Then no two
embeddings capture the same two nodes (`eq_of_unambiguous`).

Both hold of all built-in languages, which is looked up in their tables.
-/
import Outline.Proofs.Language.Marked
import Outline.Proofs.Query.Determined

namespace Outline

-- ================================================================ routes

/-- The end of a route, from the first capture that is not a name on. -/
def Route.fromDefinition (route : Route) : Route :=
  route.dropWhile fun step => step.captures.all (· == nameCapture)

/-- What two captures leave for the first of them is the definition. -/
theorem Route.Leads.of_fromDefinition {F : Forest} {kind : String}
    {top d n m : NodeId} {route after : Route} {step : Step}
    (h : route.Leads F
      [⟨kind, some d⟩, ⟨nameCapture, some m⟩] top n)
    (hroute : route.fromDefinition = step :: after) :
    Leads F [⟨kind, some d⟩, ⟨nameCapture, some m⟩] (step :: after) d n := by
  have hsplit : route = route.takeWhile (fun step =>
      step.captures.all (· == nameCapture)) ++ step :: after := by
    rw [← hroute, fromDefinition, List.takeWhile_append_dropWhile]
  rw [hsplit] at h
  obtain ⟨x, hleads⟩ := h.exists_split
  have hother : ∃ name ∈ step.captures, name ≠ nameCapture := by
    have hhead := List.head?_dropWhile_not
      (fun step : Step => step.captures.all (· == nameCapture)) route
    rw [← fromDefinition, hroute] at hhead
    simpa using hhead
  obtain ⟨name, hname, hne⟩ := hother
  have hmem := hleads.holds_head.captures name hname
  rcases List.mem_cons.mp hmem with hfirst | hsecond
  · cases hfirst
    exact hleads
  · cases List.mem_singleton.mp hsecond
    exact absurd rfl hne

/-- The ends of the routes to the name. -/
def Pattern.definitionRoutes (p : Pattern) : List Route :=
  (p.routes nameCapture [] []).map Route.fromDefinition

theorem Query.captures_eq {q : Query} {x : Embedding} {p : Pattern}
    (hp : q.patterns[x.pattern]? = some p) :
    q.captures x = (p.placements [] x.sending).captures := by
  rw [captures, placements, hp]
  rfl

namespace Language

variable {l : Language} {F : Forest} {g : Grammar} {x : Embedding}
  {kind : String} {d n : NodeId}

/-- Whether there are steps below the definition on every route to a
name. -/
def located (l : Language) : Bool :=
  l.query.patterns.all fun p => p.definitionRoutes.all (2 ≤ ·.length)

/-- In a located language a route leads from the definition down to the
name. -/
theorem exists_definition_route (hl : l.located = true) (hF : F.IsTree)
    (hx : l.query.Embeds F g x)
    (hcaptures : l.query.captures x
      = [⟨kind, some d⟩, ⟨nameCapture, some n⟩]) :
    ∃ p step after, l.query.patterns[x.pattern]? = some p
      ∧ step :: after ∈ p.definitionRoutes ∧ after ≠ []
      ∧ Route.Leads F [⟨kind, some d⟩, ⟨nameCapture, some n⟩]
        (step :: after) d n := by
  obtain ⟨p, hp, hembeds⟩ := hx
  have hplaced : (Pattern.placements [] p x.sending).captures
      = [⟨kind, some d⟩, ⟨nameCapture, some n⟩] := by
    rw [← Query.captures_eq hp, hcaptures]
  have hname : ⟨nameCapture, some n⟩
      ∈ (Pattern.placements [] p x.sending).captures := by
    rw [hplaced]
    simp
  obtain ⟨route, hroute, hleads⟩ :=
    Pattern.exists_route_of_capture hF hembeds hname
  rw [hplaced] at hleads
  have hmem : route.fromDefinition ∈ p.definitionRoutes :=
    List.mem_map_of_mem hroute
  have hlength := List.all_eq_true.mp (List.all_eq_true.mp hl p
    (List.mem_of_getElem? hp)) _ hmem
  cases hend : route.fromDefinition with
  | nil => simp [hend] at hlength
  | cons step after =>
      refine ⟨p, step, after, hp, hend ▸ hmem, ?_,
        hleads.of_fromDefinition hend⟩
      rintro rfl
      simp [hend] at hlength

end Language

-- =============================================================== clashes

/-- Whether two steps cannot hold at one node: their tests exclude each
other, or those of a child under a single label do. -/
def Step.clashes (single : List String) (step other : Step) : Bool :=
  step.test.excludes other.test ||
    step.sides.any fun side => single.contains side.1 &&
      other.sides.any fun side' =>
        side.1 == side'.1 && NodeTest.excludeEach side.2 side'.2

theorem Step.false_of_clashes {F : Forest} (hF : F.IsTree)
    {single : List String} (hsingle : ∀ label ∈ single, F.Single label)
    {step other : Step} {given given' : List Capture} {n : NodeId}
    (h : step.clashes single other = true) (hstep : step.Holds F given n)
    (hother : other.Holds F given' n) : False := by
  rcases Bool.or_eq_true_iff.mp h with htest | hsides
  · exact NodeTest.not_holds_of_excludes htest hstep.test hother.test
  · obtain ⟨side, hside, hclash⟩ := List.any_eq_true.mp hsides
    obtain ⟨hmem, hclash⟩ := Bool.and_eq_true_iff.mp hclash
    obtain ⟨side', hside', hclash⟩ := List.any_eq_true.mp hclash
    obtain ⟨hlabel, hexcludes⟩ := Bool.and_eq_true_iff.mp hclash
    obtain ⟨c, hparent, hfield, htests⟩ := hstep.sides side hside
    obtain ⟨c', hparent', hfield', htests'⟩ := hother.sides side' hside'
    rw [← beq_iff_eq.mp hlabel] at hfield'
    have hcc : c = c' := (hsingle side.1 (List.contains_iff_mem.mp hmem)).eq
      hF hparent hparent' hfield hfield'
    subst hcc
    exact NodeTest.false_of_excludeEach hexcludes htests htests'

/-- Whether two routes cannot lead from one node to one node. -/
def Route.apart (single : List String) : Route → Route → Bool
  | step :: after, other :: after' =>
    after.length != after'.length || step.clashes single other
  | _, _ => false

theorem Route.false_of_apart {F : Forest} (hF : F.IsTree)
    {single : List String} (hsingle : ∀ label ∈ single, F.Single label)
    {step other : Step} {after after' : Route} {given given' : List Capture}
    {d n : NodeId} (h : apart single (step :: after) (other :: after') = true)
    (hleads : Leads F given (step :: after) d n) (hafter : after ≠ [])
    (hleads' : Leads F given' (other :: after') d n) (hafter' : after' ≠ []) :
    False := by
  rcases Bool.or_eq_true_iff.mp h with hlength | hclashes
  · -- the name is one distance below the definition, not two
    obtain ⟨between, hbetween, hdistance⟩ := hleads.exists_ancestor hafter
    obtain ⟨between', hbetween', hdistance'⟩ := hleads'.exists_ancestor hafter'
    have heq := hF.acyclic.between_unique hbetween hbetween'
    rw [heq] at hdistance
    exact bne_iff_ne.mp hlength (hdistance.symm.trans hdistance')
  · exact Step.false_of_clashes hF hsingle hclashes hleads.holds_head
      hleads'.holds_head

/-- Whether two patterns cannot meet at a definition and a name. -/
def Pattern.apart (single : List String) (p q : Pattern) : Bool :=
  p.definitionRoutes.all fun route =>
    q.definitionRoutes.all (Route.apart single route)

namespace Language

variable {l : Language} {F : Forest} {g : Grammar} {x y : Embedding}
  {single : List String} {kind kind' : String} {d n : NodeId}

/-- Whether every pattern of the query is determined by its name, and no
two patterns can meet. -/
def unambiguous (single : List String) (l : Language) : Bool :=
  (l.query.patterns.all fun p =>
    p.reaches nameCapture && p.determined nameCapture single) &&
  decide (l.query.patterns.Pairwise fun p q => p.apart single q = true)

/-- Embeddings of different patterns do not meet. -/
theorem pattern_eq_of_unambiguous (hlocated : l.located = true)
    (hl : l.unambiguous single = true) (hF : F.IsTree)
    (hsingle : ∀ label ∈ single, F.Single label)
    (hx : l.query.Embeds F g x) (hy : l.query.Embeds F g y)
    (hcaptures : l.query.captures x
      = [⟨kind, some d⟩, ⟨nameCapture, some n⟩])
    (hcaptures' : l.query.captures y
      = [⟨kind', some d⟩, ⟨nameCapture, some n⟩]) :
    x.pattern = y.pattern := by
  obtain ⟨p, step, after, hp, hmem, hafter, hleads⟩ :=
    exists_definition_route hlocated hF hx hcaptures
  obtain ⟨q, other, after', hq, hmem', hafter', hleads'⟩ :=
    exists_definition_route hlocated hF hy hcaptures'
  have hapart := List.pairwise_iff_getElem.mp
    (of_decide_eq_true (Bool.and_eq_true_iff.mp hl).2)
  obtain ⟨hi, rfl⟩ := List.getElem?_eq_some_iff.mp hp
  obtain ⟨hj, rfl⟩ := List.getElem?_eq_some_iff.mp hq
  rcases Nat.lt_trichotomy x.pattern y.pattern with hlt | heq | hgt
  · have hroutes := List.all_eq_true.mp (List.all_eq_true.mp
      (hapart _ _ hi hj hlt) _ hmem) _ hmem'
    exact (Route.false_of_apart hF hsingle hroutes hleads hafter hleads'
      hafter').elim
  · exact heq
  · have hroutes := List.all_eq_true.mp (List.all_eq_true.mp
      (hapart _ _ hj hi hgt) _ hmem') _ hmem
    exact (Route.false_of_apart hF hsingle hroutes hleads' hafter' hleads
      hafter).elim

/-- No two embeddings of an unambiguous language capture the same
definition and the same name. -/
theorem eq_of_unambiguous (hlocated : l.located = true)
    (hl : l.unambiguous single = true) (hF : F.IsTree)
    (hsingle : ∀ label ∈ single, F.Single label)
    (hx : l.query.Embeds F g x) (hy : l.query.Embeds F g y)
    (hcaptures : l.query.captures x
      = [⟨kind, some d⟩, ⟨nameCapture, some n⟩])
    (hcaptures' : l.query.captures y
      = [⟨kind', some d⟩, ⟨nameCapture, some n⟩])
    (hkind : kind ≠ nameCapture) (hkind' : kind' ≠ nameCapture) : x = y := by
  have hpattern := pattern_eq_of_unambiguous hlocated hl hF hsingle hx hy
    hcaptures hcaptures'
  obtain ⟨p, hp, hembeds⟩ := hx
  obtain ⟨q, hq, hembeds'⟩ := hy
  rw [Query.captures_eq hp] at hcaptures
  rw [← hpattern] at hq
  cases hp.symm.trans hq
  rw [Query.captures_eq (hpattern ▸ hp)] at hcaptures'
  obtain ⟨hreaches, hdetermined⟩ := Bool.and_eq_true_iff.mp
    (List.all_eq_true.mp (Bool.and_eq_true_iff.mp hl).1 p
      (List.mem_of_getElem? hp))
  -- both embeddings have `n` for their name
  have hagree : ∀ m m',
      ⟨nameCapture, some m⟩ ∈ (p.placements [] x.sending).captures →
      ⟨nameCapture, some m'⟩ ∈ (p.placements [] y.sending).captures →
      m = m' := by
    intro m m' hm hm'
    rw [hcaptures] at hm
    rw [hcaptures'] at hm'
    have hm : m = n := by simpa [Ne.symm hkind] using hm
    have hm' : m' = n := by simpa [Ne.symm hkind'] using hm'
    rw [hm, hm']
  have hroot :=
    Pattern.root_eq_of_reaches hF hreaches hembeds hembeds' hagree
  have hsending := Pattern.eq_of_determined hF hsingle [] hdetermined
    hembeds hembeds' hroot hagree
  cases x
  cases y
  cases hpattern
  cases hsending
  rfl

end Language

-- ============================================================== built in

namespace LanguagePack

variable {G : Grammars} {pack : LanguagePack} {l : Language}

theorem builtIn_located (hpack : pack ∈ builtIn)
    (hl : pack.register G = .ok l) : l.located = true := by
  refine of_all_builtIn (fun _ l => l.located) (fun _ _ _ => rfl) ?_ hpack hl
  decide +kernel

/-- Built-in languages are unambiguous where no node has two types or two
bodies. -/
theorem builtIn_unambiguous (hpack : pack ∈ builtIn)
    (hl : pack.register G = .ok l) :
    l.unambiguous ["type", "body"] = true := by
  refine of_all_builtIn (fun _ l => l.unambiguous ["type", "body"])
    (fun _ _ _ => rfl) ?_ hpack hl
  decide +kernel

end LanguagePack

end Outline
