/-
One captured node fixes a whole embedding.

Every part of a pattern can in general be sent to several children, and
each choice is an embedding of its own. Two things leave no choice. A
part that lies on the only kind of route to a captured node is an
ancestor of that node, at a known distance; and a part whose label at
most one child has is that child. A pattern all of whose parts are of one
of these sorts, and whose alternatives exclude each other, is determined:
two embeddings that agree in the captured node are the same
(`eq_of_determined`).

Whether a pattern is determined is computed from the pattern and the
labels that are known to be single.
-/
import Outline.Proofs.Query.Route

namespace Outline

/-- No node has two children under the label. -/
def Forest.Single (F : Forest) (label : String) : Prop :=
  ∀ n, ∀ a ∈ F.children n, ∀ b ∈ F.children n,
    F.field a = some label → F.field b = some label → a = b

theorem Forest.Single.eq {F : Forest} {label : String}
    (h : F.Single label) (hF : F.IsTree) {n a b : NodeId}
    (ha : F.parent a = some n) (hb : F.parent b = some n)
    (hafield : F.field a = some label) (hbfield : F.field b = some label) :
    a = b :=
  h n a ((hF.mem_children n a).mpr ha) b ((hF.mem_children n b).mpr hb)
    hafield hbfield

/-- Beyond the list no node has children, so only those in it have to be
looked at. -/
theorem Forest.single_of_lt_size {F : Forest} {label : String}
    (h : ∀ n < F.size, ∀ a ∈ F.children n, ∀ b ∈ F.children n,
      F.field a = some label → F.field b = some label → a = b) :
    F.Single label := by
  intro n a ha
  by_cases hn : n < F.size
  · exact h n hn a ha
  · rw [children, node, Array.getD_eq_getD_getElem?,
      Array.getElem?_eq_none (by simpa [size] using hn)] at ha
    cases ha

-- ============================================================== exclusion

namespace NodeTest

/-- Whether no node passes both tests. -/
def excludes : NodeTest → NodeTest → Bool
  | .kind j, .kind k => j != k
  | .literal s, .literal t => s != t
  | .kind _, .literal _ | .literal _, .kind _ => true
  | .named, .literal _ | .literal _, .named => true
  | _, _ => false

theorem not_holds_of_excludes {F : Forest} {n : NodeId} {test other : NodeTest}
    (h : test.excludes other = true) (htest : test.Holds F n) :
    ¬ other.Holds F n := by
  cases test <;> cases other <;> simp_all [excludes, Holds]

/-- Whether no node passes one of the tests and one of the others. -/
def excludeEach (tests others : List NodeTest) : Bool :=
  tests.all fun test => others.all test.excludes

theorem false_of_excludeEach {F : Forest} {n : NodeId}
    {tests others : List NodeTest} (h : excludeEach tests others = true)
    (htests : ∃ test ∈ tests, test.Holds F n)
    (hothers : ∃ test ∈ others, test.Holds F n) : False := by
  obtain ⟨test, htest, hholds⟩ := htests
  obtain ⟨other, hother, hholds'⟩ := hothers
  have hexcludes := List.all_eq_true.mp (List.all_eq_true.mp h test htest)
    other hother
  exact not_holds_of_excludes hexcludes hholds hholds'

end NodeTest

-- ============================================================== distances

/-- Routes of one length to one node come from one node. -/
theorem Route.Leads.top_unique {F : Forest} {given given' : List Capture}
    {route route' : Route} {top top' n : NodeId}
    (h : route.Leads F given top n) (h' : route'.Leads F given' top' n)
    (hlength : route.length = route'.length) : top = top' := by
  cases route with
  | nil => cases h
  | cons step route =>
      cases route' with
      | nil => cases h'
      | cons step' route' =>
          have hlength : route.length = route'.length := Nat.succ.inj hlength
          by_cases hroute : route = []
          · subst hroute
            have hroute' : route' = [] :=
              List.length_eq_zero_iff.mp hlength.symm
            subst hroute'
            rw [← h.eq_of_singleton, ← h'.eq_of_singleton]
          · have hroute' : route' ≠ [] := by
              intro hnil
              rw [hnil] at hlength
              exact hroute (List.length_eq_zero_iff.mp hlength)
            obtain ⟨between, hbetween, hdistance⟩ := h.exists_ancestor hroute
            obtain ⟨between', hbetween', hdistance'⟩ :=
              h'.exists_ancestor hroute'
            exact (hbetween.unique hbetween' (by omega)).2

/-- What a profile lists is captured. -/
theorem Profile.Describes.exists_capture {F : Forest} {profile : Profile}
    {captures : List Capture} (h : profile.Describes F captures)
    {entry : String × NodeTest} (hentry : entry ∈ profile) :
    ∃ n, ⟨entry.1, some n⟩ ∈ captures := by
  induction h with
  | nil => cases hentry
  | @cons first c profile captures hfirst _ ih =>
      rcases List.mem_cons.mp hentry with rfl | hentry
      · obtain ⟨hname, n, hnode, -⟩ := hfirst
        refine ⟨n, ?_⟩
        rw [← hname, ← hnode]
        exact List.mem_cons_self ..
      · obtain ⟨n, hn⟩ := ih hentry
        exact ⟨n, List.mem_cons_of_mem _ hn⟩

namespace Pattern

/-- Whether every embedding captures a node under `target`, and all at
one distance from the root. -/
def reaches (target : String) (p : Pattern) : Bool :=
  (p.profiles []).all (fun profile => profile.any (·.1 == target)) &&
    (p.routes target [] []).all fun route =>
      (p.routes target [] []).all (·.length == route.length)

variable {F : Forest} {g : Grammar} {target : String}

theorem exists_capture_of_reaches {p : Pattern} {s : Sending}
    (h : p.reaches target = true) (hs : p.Embeds F g s) :
    ∃ n, ⟨target, some n⟩ ∈ (placements [] p s).captures := by
  obtain ⟨profile, hprofile, hdescribes⟩ := exists_profile hs []
  have hany := List.all_eq_true.mp (Bool.and_eq_true_iff.mp h).1 profile
    hprofile
  obtain ⟨entry, hentry, hname⟩ := List.any_eq_true.mp hany
  obtain ⟨n, hn⟩ := hdescribes.exists_capture hentry
  rw [beq_iff_eq.mp hname] at hn
  exact ⟨n, hn⟩

/-- Embeddings that agree in the captured node agree in the root. -/
theorem root_eq_of_reaches (hF : F.IsTree) {p : Pattern} {s t : Sending}
    (h : p.reaches target = true) (hs : p.Embeds F g s)
    (ht : p.Embeds F g t)
    (hagree : ∀ m n, ⟨target, some m⟩ ∈ (placements [] p s).captures →
      ⟨target, some n⟩ ∈ (placements [] p t).captures → m = n) :
    s.root = t.root := by
  obtain ⟨m, hm⟩ := exists_capture_of_reaches h hs
  obtain ⟨n, hn⟩ := exists_capture_of_reaches h ht
  cases hagree m n hm hn
  obtain ⟨route, hroute, hleads⟩ := exists_route_of_capture hF hs hm
  obtain ⟨route', hroute', hleads'⟩ := exists_route_of_capture hF ht hn
  have hlength := List.all_eq_true.mp (List.all_eq_true.mp
    (Bool.and_eq_true_iff.mp h).2 route' hroute') route hroute
  exact hleads.top_unique hleads' (beq_iff_eq.mp hlength)

-- =========================================================== determinacy

mutual

/-- Whether an embedding is fixed by its root and by the node under
`target`, in a tree where the labels `single` are single. -/
def determined (target : String) (single : List String) : Pattern → Bool
  | .node _ _ _ children => childrenDetermined target single children
  | .anyOf _ _ alternatives => anyDetermined target single alternatives

/-- The same for child patterns: where each one is sent is fixed by its
label or by the captured node. -/
def childrenDetermined (target : String) (single : List String) :
    List (Bool × Pattern) → Bool
  | [] => true
  | (_, p) :: rest =>
    (p.label.any single.contains || p.reaches target) &&
      determined target single p && childrenDetermined target single rest

/-- The same for alternatives, which exclude each other. -/
def anyDetermined (target : String) (single : List String) :
    List Pattern → Bool
  | [] => true
  | p :: rest =>
    (rest.all fun q => NodeTest.excludeEach p.rootTests q.rootTests) &&
      determined target single p && anyDetermined target single rest

end

variable {single : List String}

/-- Two embeddings that send the root of a child pattern to children of
one node agree in the root, if the label is single or the captured node
is the same. -/
theorem child_root_eq (hF : F.IsTree) (hsingle : ∀ l ∈ single, F.Single l)
    {p : Pattern} {s t : Sending} {n : NodeId}
    (h : (p.label.any single.contains || p.reaches target) = true)
    (hs : p.Embeds F g s) (ht : p.Embeds F g t)
    (hsparent : F.parent s.root = some n)
    (htparent : F.parent t.root = some n)
    (hagree : ∀ m n, ⟨target, some m⟩ ∈ (placements [] p s).captures →
      ⟨target, some n⟩ ∈ (placements [] p t).captures → m = n) :
    s.root = t.root := by
  rcases Bool.or_eq_true_iff.mp h with hlabel | hreaches
  · obtain ⟨label, hlabel, hmem⟩ := (Option.any_eq_true ..).mp hlabel
    exact (hsingle label (List.contains_iff_mem.mp hmem)).eq hF hsparent
      htparent (hs.field_eq hlabel) (ht.field_eq hlabel)
  · exact root_eq_of_reaches hF hreaches hs ht hagree

mutual

/-- Two embeddings of a determined pattern that agree in the root and in
the captured node are the same. -/
theorem eq_of_determined (hF : F.IsTree)
    (hsingle : ∀ l ∈ single, F.Single l) :
    ∀ {p : Pattern} {s t : Sending} (outer : List String),
      p.determined target single = true →
      p.Embeds F g s → p.Embeds F g t → s.root = t.root →
      (∀ m n, ⟨target, some m⟩ ∈ (placements outer p s).captures →
        ⟨target, some n⟩ ∈ (placements outer p t).captures → m = n) →
      s = t
  | .node _ _ captures children, .node top below, .node _ below', outer, h,
      .node _ _ _ fits embeds, .node _ _ _ fits' embeds', hroot, hagree => by
      cases hroot
      rw [determined] at h
      refine congrArg (Sending.node top) (eq_of_childrenDetermined hF hsingle h
        embeds embeds' (parent_of_fits hF fits) (parent_of_fits hF fits') ?_)
      intro m n hm hn
      refine hagree m n ?_ ?_
      · rw [placements, captures_cons]
        exact List.mem_append_right _ hm
      · rw [placements, captures_cons]
        exact List.mem_append_right _ hn
  | .anyOf _ captures alternatives, .choice _ _, .choice _ _, outer, h,
      .anyOf _ chosen embeds, .anyOf _ chosen' embeds', hroot, hagree => by
      rw [determined] at h
      rw [placements, placements] at hagree
      obtain ⟨rfl, rfl⟩ := eq_of_anyDetermined hF hsingle (captures ++ outer)
        h chosen embeds chosen' embeds' hroot hagree
      rfl

theorem eq_of_childrenDetermined (hF : F.IsTree)
    (hsingle : ∀ l ∈ single, F.Single l) {n : NodeId} :
    ∀ {children : List (Bool × Pattern)} {below below' : List Sending},
      childrenDetermined target single children = true →
      List.Forall₂ (fun child s => child.2.Embeds F g s) children below →
      List.Forall₂ (fun child s => child.2.Embeds F g s) children below' →
      (∀ s ∈ below, F.parent s.root = some n) →
      (∀ s ∈ below', F.parent s.root = some n) →
      (∀ m n, ⟨target, some m⟩ ∈ (childPlacements children below).captures →
        ⟨target, some n⟩ ∈ (childPlacements children below').captures →
        m = n) →
      below = below'
  | [], _, _, _, .nil, .nil, _, _, _ => rfl
  | (_, p) :: rest, s :: below, t :: below', h, .cons embeds hrest,
      .cons embeds' hrest', hparent, hparent', hagree => by
      rw [childrenDetermined, Bool.and_eq_true_iff,
        Bool.and_eq_true_iff] at h
      obtain ⟨⟨hfixed, hdetermined⟩, hothers⟩ := h
      rw [childPlacements, childPlacements, captures_append,
        captures_append] at hagree
      have hfirst : ∀ m n, ⟨target, some m⟩ ∈ (placements [] p s).captures →
          ⟨target, some n⟩ ∈ (placements [] p t).captures → m = n :=
        fun m n hm hn => hagree m n (List.mem_append_left _ hm)
          (List.mem_append_left _ hn)
      have hroot := child_root_eq hF hsingle hfixed embeds embeds'
        (hparent s (List.mem_cons_self ..))
        (hparent' t (List.mem_cons_self ..)) hfirst
      have hst :=
        eq_of_determined hF hsingle [] hdetermined embeds embeds' hroot hfirst
      have hbelow := eq_of_childrenDetermined hF hsingle hothers hrest hrest'
        (fun s hs => hparent s (List.mem_cons_of_mem _ hs))
        (fun s hs => hparent' s (List.mem_cons_of_mem _ hs))
        (fun m n hm hn => hagree m n (List.mem_append_right _ hm)
          (List.mem_append_right _ hn))
      rw [hst, hbelow]

theorem eq_of_anyDetermined (hF : F.IsTree)
    (hsingle : ∀ l ∈ single, F.Single l) {s t : Sending} :
    ∀ {ps : List Pattern} {i j : Nat} {p q : Pattern} (outer : List String),
      anyDetermined target single ps = true →
      ps[i]? = some p → p.Embeds F g s → ps[j]? = some q → q.Embeds F g t →
      s.root = t.root →
      (∀ m n, ⟨target, some m⟩ ∈ (anyPlacements outer ps i s).captures →
        ⟨target, some n⟩ ∈ (anyPlacements outer ps j t).captures → m = n) →
      i = j ∧ s = t
  | [], _, _, _, _, _, _, hi, _, _, _, _, _ => by simp at hi
  | first :: ps, i, j, p, q, outer, h, hi, embeds, hj, embeds', hroot,
      hagree => by
      rw [anyDetermined, Bool.and_eq_true_iff, Bool.and_eq_true_iff] at h
      obtain ⟨⟨hexcludes, hdetermined⟩, hothers⟩ := h
      -- the first alternative and a later one would meet at the root
      have hclash : ∀ {k : Nat} {r : Pattern} {u v : Sending},
          ps[k]? = some r → first.Embeds F g u → r.Embeds F g v →
          u.root = v.root → False := by
        intro k r u v hk hu hv huv
        have hexclude := List.all_eq_true.mp hexcludes r
          (List.mem_of_getElem? hk)
        refine NodeTest.false_of_excludeEach hexclude hu.exists_rootTest ?_
        rw [huv]
        exact hv.exists_rootTest
      match i, j with
      | 0, 0 =>
          cases hi
          cases hj
          rw [anyPlacements, anyPlacements] at hagree
          exact ⟨rfl, eq_of_determined hF hsingle outer hdetermined embeds
            embeds' hroot hagree⟩
      | 0, j + 1 =>
          cases hi
          exact (hclash hj embeds embeds' hroot).elim
      | i + 1, 0 =>
          cases hj
          exact (hclash hi embeds' embeds hroot.symm).elim
      | i + 1, j + 1 =>
          rw [anyPlacements, anyPlacements] at hagree
          obtain ⟨hij, hst⟩ := eq_of_anyDetermined hF hsingle outer hothers
            hi embeds hj embeds' hroot hagree
          exact ⟨congrArg Nat.succ hij, hst⟩

end

end Pattern

end Outline
