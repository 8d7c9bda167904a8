/-
A range leads back to its bytes.

A point counts newlines and the bytes since the last of them, from the
front of the source to an offset. Put one byte more in front, and the point
moves in one of two ways (`Point.ofOffset_cons`): a newline adds a row, and
any other byte a column, if there is no row yet. The lines of the source
change by the same byte in the same way. So the lengths of lines lead from
a point back to its offset (`Point.offsetIn_ofOffset`), and points are in
the order of their offsets (`Point.le_ofOffset`): both are inductions over
the source, one byte a step.

The range of a node whose points come from its offsets is therefore in
order, and no match is lost for it; and what a definition has for content
can be cut out of the source by its range alone.
-/
import Mathlib.Data.List.TakeWhile
import Outline.Proofs.Extraction.Obstacles
import Outline.Proofs.Extraction.Single

namespace Outline

namespace Point

variable {source : List UInt8} {m n : Nat}

/-- The offset of a point: the lines above its row, each with the newline
behind it, and the bytes before its column. -/
def offsetIn (source : List UInt8) (p : Point) : Nat :=
  (((source.splitOn newline).take p.row.toNat).flatMap (· ++ [newline])).length
    + p.column.toNat

/-- Where a point is once there is one byte more in front. -/
def behind (byte : UInt8) (p : Point) : Point :=
  if byte = newline then { p with row := p.row + 1 }
  else if p.row = 0 then { p with column := p.column + 1 }
  else p

-- ================================================================ offsets

/-- All of a text comes after its last newline if it has none. -/
theorem length_takeWhile_eq_iff (before : List UInt8) :
    (before.reverse.takeWhile (· != newline)).length = before.length ↔
      before.count newline = 0 := by
  rw [List.count_eq_zero, ← @List.length_reverse _ before]
  constructor
  · intro hlength hmem
    have hself := (List.takeWhile_prefix (· != newline)).eq_of_length hlength
    rw [List.takeWhile_eq_self_iff] at hself
    have hne := hself newline (List.mem_reverse.mpr hmem)
    simp at hne
  · intro hnone
    have hself : before.reverse.takeWhile (· != newline) = before.reverse := by
      rw [List.takeWhile_eq_self_iff]
      intro b hb
      rw [bne_iff_ne]
      rintro rfl
      exact hnone (List.mem_reverse.mp hb)
    rw [hself]

theorem ofOffset_zero : ofOffset source 0 = ⟨0, 0⟩ := rfl

/-- A byte in front moves the points behind it. -/
theorem ofOffset_cons (byte : UInt8) (rest : List UInt8) (n : Nat) :
    ofOffset (byte :: rest) (n + 1) = (ofOffset rest n).behind byte := by
  have hlength := length_takeWhile_eq_iff (rest.take n)
  unfold ofOffset behind
  rw [List.take_succ_cons]
  generalize rest.take n = before at hlength ⊢
  simp only [List.count_cons, List.reverse_cons, List.takeWhile_append,
    List.length_reverse, hlength]
  by_cases hbyte : byte = newline
  · -- the columns behind a newline do not count what is before it
    subst hbyte
    by_cases hrow : before.count newline = 0
    · simp [hrow, hlength.mpr hrow]
    · simp [hrow]
  · by_cases hrow : before.count newline = 0
    · simp [hbyte, hrow, hlength.mpr hrow]
    · simp [hbyte, hrow]

theorem ofOffset_row_nonneg : 0 ≤ (ofOffset source n).row := by
  unfold ofOffset
  exact Int.natCast_nonneg _

theorem ofOffset_column_nonneg : 0 ≤ (ofOffset source n).column := by
  unfold ofOffset
  exact Int.natCast_nonneg _

/-- A byte in front makes an offset one more. -/
theorem offsetIn_cons (byte : UInt8) (rest : List UInt8) {p : Point}
    (hrow : 0 ≤ p.row) (hcolumn : 0 ≤ p.column) :
    (p.behind byte).offsetIn (byte :: rest) = p.offsetIn rest + 1 := by
  unfold offsetIn behind
  rw [List.splitOn_cons_eq_if_modifyHead]
  by_cases hbyte : byte = newline
  · -- one more line, which is empty
    rw [if_pos hbyte, if_pos (beq_iff_eq.mpr hbyte)]
    have hnext : (p.row + 1).toNat = p.row.toNat + 1 := by omega
    simp only [hnext, List.take_succ_cons, List.flatMap_cons, List.nil_append,
      List.length_append, List.length_singleton]
    omega
  · rw [if_neg hbyte, if_neg (mt beq_iff_eq.mp hbyte)]
    obtain ⟨first, others, hlines⟩ :
        ∃ first others, rest.splitOn newline = first :: others :=
      List.exists_cons_of_ne_nil (List.splitOn_ne_nil newline rest)
    by_cases hzero : p.row = 0
    · -- before the end of the first line only the column counts
      rw [if_pos hzero, hzero]
      simp only [Int.toNat_zero, List.take_zero, List.flatMap_nil,
        List.length_nil]
      omega
    · -- the first line has one byte more
      have hrow' : p.row.toNat = (p.row.toNat - 1) + 1 := by omega
      rw [if_neg hzero, hlines, hrow']
      simp only [List.modifyHead_cons, List.take_succ_cons, List.flatMap_cons,
        List.length_append, List.length_cons]
      omega

/-- A point leads back to the offset it was made of. -/
theorem offsetIn_ofOffset (h : n ≤ source.length) :
    (ofOffset source n).offsetIn source = n := by
  induction source generalizing n with
  | nil =>
      rw [List.length_nil, Nat.le_zero] at h
      subst h
      rfl
  | cons byte rest ih =>
      cases n with
      | zero =>
          rw [ofOffset_zero]
          simp [offsetIn]
      | succ n =>
          rw [List.length_cons] at h
          rw [ofOffset_cons, offsetIn_cons byte rest ofOffset_row_nonneg
            ofOffset_column_nonneg, ih (by omega)]

/-- A byte in front keeps points in order. -/
theorem behind_le (byte : UInt8) {p q : Point} (hrow : 0 ≤ p.row)
    (h : p.row < q.row ∨ p.row = q.row ∧ p.column ≤ q.column) :
    (p.behind byte).row < (q.behind byte).row
      ∨ (p.behind byte).row = (q.behind byte).row
        ∧ (p.behind byte).column ≤ (q.behind byte).column := by
  unfold behind
  by_cases hbyte : byte = newline
  · rw [if_pos hbyte, if_pos hbyte]
    dsimp only
    omega
  · rw [if_neg hbyte, if_neg hbyte]
    by_cases hp : p.row = 0
    · by_cases hq : q.row = 0
      · rw [if_pos hp, if_pos hq]
        dsimp only
        omega
      · rw [if_pos hp, if_neg hq]
        dsimp only
        omega
    · have hq : ¬q.row = 0 := by omega
      rw [if_neg hp, if_neg hq]
      exact h

/-- Points are in the order of their offsets. -/
theorem le_ofOffset (h : m ≤ n) :
    (ofOffset source m).row < (ofOffset source n).row
      ∨ (ofOffset source m).row = (ofOffset source n).row
        ∧ (ofOffset source m).column ≤ (ofOffset source n).column := by
  induction source generalizing m n with
  | nil => simp [ofOffset]
  | cons byte rest ih =>
      cases m with
      | zero =>
          have hrow := @ofOffset_row_nonneg (byte :: rest) n
          have hcolumn := @ofOffset_column_nonneg (byte :: rest) n
          rw [ofOffset_zero]
          dsimp only
          omega
      | succ m =>
          cases n with
          | zero => omega
          | succ n =>
              rw [ofOffset_cons, ofOffset_cons]
              exact behind_le byte ofOffset_row_nonneg
                (ih (Nat.le_of_succ_le_succ h))

end Point

-- ============================================================ definitions

/-- A node spans the bytes of a source from `start` up to `stop`, and its
points are those of these offsets. -/
structure Forest.Covers (F : Forest) (source : List UInt8) (n : NodeId)
    (start stop : Nat) : Prop where
  startByte : (F.node n).startByte = start
  endByte : (F.node n).endByte = stop
  startPoint : (F.node n).startPoint = .ofOffset source start
  endPoint : (F.node n).endPoint = .ofOffset source stop
  ordered : start ≤ stop
  inside : stop ≤ source.length

namespace Forest.Covers

variable {F : Forest} {source : List UInt8} {n : NodeId} {start stop : Nat}

theorem inOrder (h : F.Covers source n start stop) : (F.range n).InOrder := by
  unfold SourceRange.InOrder range
  rw [h.startPoint, h.endPoint]
  exact ⟨⟨Point.ofOffset_row_nonneg, Point.ofOffset_column_nonneg,
    Point.ofOffset_row_nonneg, Point.ofOffset_column_nonneg⟩,
    Point.le_ofOffset h.ordered⟩

theorem offsetIn_start (h : F.Covers source n start stop) :
    (F.range n).start.offsetIn source = start := by
  unfold range
  rw [h.startPoint]
  exact Point.offsetIn_ofOffset (h.ordered.trans h.inside)

theorem offsetIn_stop (h : F.Covers source n start stop) :
    (F.range n).stop.offsetIn source = stop := by
  unfold range
  rw [h.endPoint]
  exact Point.offsetIn_ofOffset h.inside

/-- The range of the node cuts its bytes out of the source. -/
theorem span_eq (h : F.Covers source n start stop) :
    F.span source n = slice source ((F.range n).start.offsetIn source)
      ((F.range n).stop.offsetIn source) := by
  rw [h.offsetIn_start, h.offsetIn_stop, span, h.startByte, h.endByte]

end Forest.Covers

/-- A match that defines a node with points of its own offsets is never
passed over for the range of the node: the range is in order, and the match
becomes a definition if only the node is not made up and there is a name to
read. The definition has a range that leads back to the two offsets, and if
content was asked for, it is what the source has between them. -/
theorem Language.content_is_cut_out_by_range (l : Language) (F : Forest)
    (source : List UInt8) (options : ExtractOptions) (m : Match)
    (kind : String) (n : NodeId) (start stop : Nat)
    (hm : m.Defines (some (l.tracks F)) kind n)
    (hn : F.Covers source n start stop) :
    (F.range n).InOrder
    ∧ ((∃ d, l.resolve F source options m = .ok d) ↔
      F.missing n = false
        ∧ ∃ naming, m.NamedBy naming ∧ F.span source naming ≠ [])
    ∧ ∀ d, l.resolve F source options m = .ok d →
      d.range = F.range n
      ∧ d.range.start.offsetIn source = start
      ∧ d.range.stop.offsetIn source = stop
      ∧ d.content = if options.includeContent then
          some (slice source (d.range.start.offsetIn source)
            (d.range.stop.offsetIn source))
        else none := by
  obtain ⟨scopes, hresolve, -⟩ :=
    exists_scopes_resolve_eq l F source options m
  refine ⟨hn.inOrder, ?_⟩
  by_cases hnamed : ∃ naming, m.NamedBy naming
  · obtain ⟨naming, hnaming⟩ := hnamed
    have hread : (∃ naming, m.NamedBy naming ∧ F.span source naming ≠ []) ↔
        F.span source naming ≠ [] := by
      constructor
      · rintro ⟨naming', hnaming', hspan⟩
        rwa [hnaming.unique hnaming']
      · exact fun hspan => ⟨naming, hnaming, hspan⟩
    rw [hread]
    rw [Match.resolve_of_defines hm hnaming,
      if_pos (SourceRange.wellFormed_iff.mpr hn.inOrder)] at hresolve
    by_cases hmissing : F.missing n = true
    · rw [if_pos hmissing] at hresolve
      simp [hresolve, hmissing, Except.map]
    · by_cases hspan : F.span source naming = []
      · rw [if_neg hmissing, if_pos hspan] at hresolve
        simp [hresolve, hspan, Except.map]
      · -- nothing else can go wrong
        rw [if_neg hmissing, if_neg hspan] at hresolve
        refine ⟨⟨fun _ => ⟨Bool.eq_false_iff.mpr hmissing, hspan⟩,
          fun _ => ⟨_, hresolve⟩⟩, fun d hd => ?_⟩
        rw [hresolve] at hd
        cases hd
        rw [← hn.span_eq]
        exact ⟨rfl, hn.offsetIn_start, hn.offsetIn_stop, rfl⟩
  · have hnone : ∀ naming, ¬m.NamedBy naming :=
      fun naming hnaming => hnamed ⟨naming, hnaming⟩
    rw [Match.resolve_of_unnamed hm hnone] at hresolve
    simp [hresolve, hnone, Except.map]

/-- A call over two lines of the source `x\nf(\n)\n`, with its name. -/
def brokenCallSource : List UInt8 := [120, 10, 102, 40, 10, 41, 10]

/-- The tree of the call. -/
def brokenCallForest : Forest :=
  .ofPreorder brokenCallSource [
    ⟨0, "call", none, 2, 6, true, false⟩,
    ⟨1, "identifier", none, 2, 3, true, false⟩]

/-- The call lies from the second row to the third, and these two points
lead back to its four bytes. -/
theorem Language.content_is_cut_out_by_range_call :
    ∃ l : Language, ∃ m : Match, ∃ d,
      m.Defines (some (l.tracks brokenCallForest)) "function" 0
      ∧ brokenCallForest.Covers brokenCallSource 0 2 6
      ∧ l.resolve brokenCallForest brokenCallSource ⟨true, false⟩ m = .ok d
      ∧ d.range = ⟨⟨1, 0⟩, ⟨2, 1⟩⟩
      ∧ d.range.start.offsetIn brokenCallSource = 2
      ∧ d.range.stop.offsetIn brokenCallSource = 6
      ∧ d.content = some [102, 40, 10, 41] := by
  let l : Language :=
    { (default : Language) with definitionKinds := [("call", .function)] }
  let m : Match := ⟨0, [⟨"function", some 0⟩, ⟨"name", some 1⟩]⟩
  have hm : m.Defines (some (l.tracks brokenCallForest)) "function" 0 :=
    Match.select_definition_iff.mp (by decide +kernel)
  have hn : brokenCallForest.Covers brokenCallSource 0 2 6 :=
    ⟨rfl, rfl, rfl, rfl, by decide, by decide⟩
  obtain ⟨-, -, hcontent⟩ := content_is_cut_out_by_range l brokenCallForest
    brokenCallSource ⟨true, false⟩ m "function" 0 2 6 hm hn
  obtain ⟨hrange, hstart, hstop, hcut⟩ := hcontent _ rfl
  refine ⟨l, m, _, hm, hn, rfl, hrange, hstart, hstop, ?_⟩
  rw [hcut, hstart, hstop]
  rfl

end Outline
