/-
Ancestors, said without climbing.

A proper ancestor of a node comes with the nodes strictly between the
two (`Ancestor`). How many these are decides which ancestor it is, and
without a cycle one ancestor is met once only (`Acyclic.between_unique`).

The searches of the library climb with a bound instead, and here the two
meet: a bounded climb passes `between` and comes to `a` if and only if
the links do so and the bound allows it (`climb_split_iff`). Without a
cycle a climb visits different nodes, and each of them but the last has a
parent and so is in the list; hence the bound of the searches, one more
than the size, never cuts a climb short (`Acyclic.climb_split_iff`).
-/
import Mathlib.Data.List.Perm.Subperm
import Outline.Proofs.Query.Embedding

namespace Outline.Forest

variable {F : Forest} {start : Option NodeId} {n p a b : NodeId}
  {between between' : List NodeId}

-- ================================================================= paths

/-- Following parents from `start` one comes to `a` past the nodes of
`between`, in this order. -/
def Climbs (F : Forest) : Option NodeId → List NodeId → NodeId → Prop
  | start, [], a => start = some a
  | start, p :: between, a => start = some p ∧ F.Climbs (F.parent p) between a

/-- `a` is a proper ancestor of `n`, and `between` are the nodes strictly
between the two, nearest to `n` first. -/
def Ancestor (F : Forest) (n : NodeId) (between : List NodeId)
    (a : NodeId) : Prop :=
  F.Climbs (F.parent n) between a

/-- One step more. -/
theorem Climbs.snoc (h : F.Climbs start between b)
    (hparent : F.parent b = some a) : F.Climbs start (between ++ [b]) a := by
  induction between generalizing start with
  | nil => exact ⟨h, hparent⟩
  | cons p between ih => exact ⟨h.1, ih h.2⟩

/-- The number of nodes passed says where a climb ends. -/
theorem Climbs.unique (h : F.Climbs start between a)
    (h' : F.Climbs start between' b)
    (hlength : between.length = between'.length) :
    between = between' ∧ a = b := by
  induction between generalizing start between' with
  | nil =>
      have hnil : between' = [] := List.length_eq_zero_iff.mp hlength.symm
      subst hnil
      have hsome : some a = some b := h.symm.trans h'
      exact ⟨rfl, Option.some.inj hsome⟩
  | cons p between ih =>
      cases between' with
      | nil => simp at hlength
      | cons q between' =>
          have hpq : p = q := Option.some.inj (h.1.symm.trans h'.1)
          subst hpq
          obtain ⟨hbetween, hab⟩ := ih h.2 h'.2 (Nat.succ.inj hlength)
          exact ⟨by rw [hbetween], hab⟩

/-- Of two nodes on one climb the second is the first or an ancestor of it,
if it is not passed on the way to the first. -/
theorem Climbs.eq_or_ancestor (h : F.Climbs start between a)
    (h' : F.Climbs start between' b) (hnew : b ∉ between) :
    b = a ∨ ∃ rest, F.Ancestor a rest b := by
  induction between generalizing start between' with
  | nil =>
      have ha : start = some a := h
      cases between' with
      | nil => exact .inl (Option.some.inj (h'.symm.trans ha))
      | cons q rest =>
          have hqa : q = a := Option.some.inj (h'.1.symm.trans ha)
          subst hqa
          exact .inr ⟨rest, h'.2⟩
  | cons p between ih =>
      rw [List.mem_cons, not_or] at hnew
      cases between' with
      | nil => exact absurd (Option.some.inj (h'.symm.trans h.1)) hnew.1
      | cons q rest =>
          have hpq : p = q := Option.some.inj (h.1.symm.trans h'.1)
          subst hpq
          exact ih h.2 h'.2 hnew.2

/-- What a climb passes has a parent, and so is inside the forest. -/
theorem Climbs.lt_size (h : F.Climbs start between a) :
    ∀ b ∈ between, b < F.size := by
  induction between generalizing start with
  | nil => exact nofun
  | cons p between ih =>
      intro b hb
      rcases List.mem_cons.mp hb with rfl | hb
      · cases between with
        | nil => exact lt_size_of_parent h.2
        | cons q between => exact lt_size_of_parent h.2.1
      · exact ih h.2 b hb

-- ================================================================ cycles

/-- A rank falls on the way to an ancestor. -/
theorem Ancestor.rank_lt {rank : NodeId → Nat}
    (hrank : ∀ n p, F.parent n = some p → rank p < rank n)
    (h : F.Ancestor n between a) :
    (∀ b ∈ between, rank b < rank n) ∧ rank a < rank n := by
  induction between generalizing n with
  | nil => exact ⟨nofun, hrank n a h⟩
  | cons p between ih =>
      have hp := hrank n p h.1
      obtain ⟨hbetween, ha⟩ := ih h.2
      refine ⟨fun b hb => ?_, Nat.lt_trans ha hp⟩
      rcases List.mem_cons.mp hb with rfl | hb
      · exact hp
      · exact Nat.lt_trans (hbetween b hb) hp

/-- In a tree the index is a rank. -/
theorem IsTree.acyclic (hF : F.IsTree) : F.Acyclic :=
  ⟨id, hF.parent_lt⟩

/-- Without a cycle an ancestor is met once only. -/
theorem Acyclic.between_unique (hF : F.Acyclic) (h : F.Ancestor n between a)
    (h' : F.Ancestor n between' a) : between = between' := by
  obtain ⟨rank, hrank⟩ := hF
  -- an ancestor that is also the parent is not met again above itself
  have hparent : ∀ {n p between}, F.parent n = some a →
      F.Ancestor n (p :: between) a → False := by
    intro n p between hn h
    have hpa : p = a := Option.some.inj (h.1.symm.trans hn)
    subst hpa
    exact Nat.lt_irrefl _ (Ancestor.rank_lt hrank h.2).2
  induction between generalizing n between' with
  | nil =>
      cases between' with
      | nil => rfl
      | cons q between' => exact (hparent h h').elim
  | cons p between ih =>
      cases between' with
      | nil => exact (hparent h' h).elim
      | cons q between' =>
          have hpq : p = q := Option.some.inj (h.1.symm.trans h'.1)
          subst hpq
          rw [ih h.2 h'.2]

/-- Without a cycle a climb passes no more nodes than there are. -/
theorem Acyclic.length_le_size (hF : F.Acyclic)
    (h : F.Climbs start between a) : between.length ≤ F.size := by
  obtain ⟨rank, hrank⟩ := hF
  have hnodup : between.Nodup := by
    induction between generalizing start with
    | nil => exact .nil
    | cons p between ih =>
        refine List.nodup_cons.mpr ⟨fun hp => ?_, ih h.2⟩
        exact Nat.lt_irrefl _ ((Ancestor.rank_lt hrank h.2).1 p hp)
  have hsubset : between ⊆ List.range F.size := fun b hb =>
    List.mem_range.mpr (h.lt_size b hb)
  have hle := (List.subperm_of_subset hnodup hsubset).length_le
  rwa [List.length_range] at hle

-- ======================================================== bounded climbs

/-- A bounded climb passes `between` and comes to `a` if the links do so
and the bound allows it. -/
theorem climb_split_iff {fuel : Nat} :
    (∃ above, F.climb start fuel = between ++ a :: above) ↔
      F.Climbs start between a ∧ between.length < fuel := by
  induction between generalizing start fuel with
  | nil =>
      cases fuel with
      | zero => simp [climb]
      | succ fuel =>
          cases start with
          | none => simp [climb, Climbs]
          | some n => simp [climb, Climbs]
  | cons p between ih =>
      cases fuel with
      | zero => simp [climb]
      | succ fuel =>
          cases start with
          | none => simp [climb, Climbs]
          | some n =>
              simp only [climb, Climbs, List.cons_append, List.cons.injEq,
                Option.some.injEq, List.length_cons, exists_and_left,
                Nat.add_lt_add_iff_right, and_assoc]
              constructor
              · rintro ⟨rfl, habove⟩
                exact ⟨rfl, ih.mp habove⟩
              · rintro ⟨rfl, hclimbs⟩
                exact ⟨rfl, ih.mpr hclimbs⟩

/-- The bound of the searches is no bound without a cycle. -/
theorem Acyclic.climb_split_iff (hF : F.Acyclic) :
    (∃ above, F.climb start (F.size + 1) = between ++ a :: above) ↔
      F.Climbs start between a := by
  rw [Forest.climb_split_iff]
  exact ⟨fun h => h.1, fun h => ⟨h, Nat.lt_succ_of_le (hF.length_le_size h)⟩⟩

end Outline.Forest
