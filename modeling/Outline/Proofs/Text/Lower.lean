/-
Lower-casing leaves no capital of a plain letter.

Names are lower-cased when they are read and once more when they are
compared with the names of settings, which are plain. The second time
must change nothing that matters. The characters with a plain lower-case
form other than themselves are the plain capitals and the Kelvin sign
(`hasPlainLower`): lower-casing leaves none of them, and a text without
them that has a plain lower-case form is that form already. Both are read
off the table of lower-case forms, run by run.
-/
import Outline.Text.Lower

namespace Outline.Text

/-- Whether a character is a plain one. -/
def isPlain (c : Char) : Bool := c.toNat < 0x80

/-- Whether a character has a plain lower-case form other than itself: a
plain capital or the Kelvin sign. -/
def hasPlainLower (c : Char) : Bool := c.isUpper || c.toNat == 0x212A

-- ============================================================= characters

/-- What is checked of a run in the table: it is one of plain characters,
or the Kelvin sign alone, or all its lower-case forms are characters
beyond the plain ones and other than the Kelvin sign. -/
def runStaysBeyond : Nat × Nat × Nat × Int → Bool
  | (first, last, _, distance) =>
    last < 0x80 || (first == 0x212A && last == 0x212A && distance == -8383)
      || (0x80 ≤ first + distance
        && (last + distance < 0x212A || 0x212A < first + distance)
        && (last + distance < 0xD800
          || (0xDFFF < first + distance && last + distance < 0x110000)))

theorem lowerRuns_stayBeyond : lowerRuns.all runStaysBeyond = true := by
  decide +kernel

theorem toNat_ofNat {n : Nat} (h : n.isValidChar) :
    (Char.ofNat n).toNat = n := by
  rw [Char.ofNat, dif_pos h]
  rfl

/-- Beyond the plain characters only the Kelvin sign has a plain
lower-case form, and no character has the Kelvin sign as its form. -/
theorem simpleLower_beyond {c : Char} (h : isPlain c = false)
    (hkelvin : c.toNat ≠ 0x212A) :
    0x80 ≤ (simpleLower c).toNat ∧ (simpleLower c).toNat ≠ 0x212A := by
  have hbeyond : 0x80 ≤ c.toNat := by simpa [isPlain] using h
  unfold simpleLower
  rw [if_neg (Nat.not_lt.mpr hbeyond)]
  split
  next first last step distance hrun =>
    have hin := Array.find?_some hrun
    simp only [Bool.and_eq_true, decide_eq_true_eq] at hin
    have hcheck := Array.all_eq_true_iff_forall_mem.mp lowerRuns_stayBeyond
      _ (Array.mem_of_find?_eq_some hrun)
    simp only [runStaysBeyond, Bool.or_eq_true, Bool.and_eq_true,
      decide_eq_true_eq, beq_iff_eq] at hcheck
    have himage : (((c.toNat : Int) + distance).toNat).isValidChar := by
      unfold Nat.isValidChar
      omega
    rw [toNat_ofNat himage]
    omega
  next => exact ⟨hbeyond, hkelvin⟩

/-- A plain character is its own lower-case form unless it is a capital,
and the form of a capital is none. -/
theorem simpleLower_plain {c : Char} (h : isPlain c = true) :
    hasPlainLower (simpleLower c) = false
      ∧ (hasPlainLower c = false → simpleLower c = c) := by
  have hall : ∀ n < 0x80, hasPlainLower (simpleLower (Char.ofNat n)) = false
      ∧ (hasPlainLower (Char.ofNat n) = false →
        simpleLower (Char.ofNat n) = Char.ofNat n) := by
    decide +kernel
  have hc := hall c.toNat (by simpa [isPlain] using h)
  rwa [Char.ofNat_toNat] at hc

theorem hasPlainLower_eq_false {c : Char} (h : 0x80 ≤ c.toNat)
    (hkelvin : c.toNat ≠ 0x212A) : hasPlainLower c = false := by
  have hupper : c.isUpper = false := by
    refine decide_eq_false fun hrange => ?_
    have hlast : c.toNat ≤ 0x5A := hrange.2
    omega
  rw [hasPlainLower, hupper, Bool.false_or, beq_eq_false_iff_ne]
  exact hkelvin

theorem hasPlainLower_simpleLower (c : Char) :
    hasPlainLower (simpleLower c) = false := by
  cases hplain : isPlain c with
  | true => exact (simpleLower_plain hplain).1
  | false =>
      by_cases hkelvin : c.toNat = 0x212A
      · rw [← Char.ofNat_toNat c, hkelvin]
        decide +kernel
      · obtain ⟨hbeyond, hother⟩ := simpleLower_beyond hplain hkelvin
        exact hasPlainLower_eq_false hbeyond hother

/-- A character that has no plain form other than itself, but a plain
form, is that form. -/
theorem eq_of_isPlain_simpleLower {c : Char} (h : hasPlainLower c = false)
    (hplain : isPlain (simpleLower c) = true) : simpleLower c = c := by
  cases hc : isPlain c with
  | true => exact (simpleLower_plain hc).2 h
  | false =>
      have hkelvin : c.toNat ≠ 0x212A := by
        intro hkelvin
        rw [hasPlainLower, hkelvin, beq_self_eq_true, Bool.or_true] at h
        cases h
      have hbeyond := (simpleLower_beyond hc hkelvin).1
      rw [isPlain, decide_eq_true_eq] at hplain
      omega

-- ================================================================== texts

/-- Lower-casing leaves no character with a plain form other than
itself. -/
theorem hasPlainLower_of_mem_lowerAfter {before cs : List Char} {c : Char}
    (h : c ∈ lowerAfter before cs) : hasPlainLower c = false := by
  induction cs generalizing before with
  | nil => cases h
  | cons d rest ih =>
      rw [lowerAfter] at h
      rcases List.mem_append.mp h with h | h
      · split at h
        next =>
          -- a sigma, in one of its two forms
          rw [List.mem_singleton] at h
          split at h <;> subst h <;> rfl
        next =>
          split at h
          next =>
            rcases List.mem_cons.mp h with rfl | h
            · rfl
            · rw [List.mem_singleton.mp h]
              rfl
          next =>
            rw [List.mem_singleton.mp h]
            exact hasPlainLower_simpleLower d
      · exact ih h

/-- A text of characters with no plain form other than themselves has no
plain form other than itself. -/
theorem lowerAfter_eq_self (before : List Char) {cs : List Char}
    (h : ∀ c ∈ cs, hasPlainLower c = false)
    (hplain : ∀ c ∈ lowerAfter before cs, isPlain c = true) :
    lowerAfter before cs = cs := by
  induction cs generalizing before with
  | nil => rfl
  | cons d rest ih =>
      rw [lowerAfter] at hplain ⊢
      obtain ⟨hd, hrest⟩ := List.forall_mem_cons.mp h
      obtain ⟨hhere, hafter⟩ := List.forall_mem_append.mp hplain
      rw [ih _ hrest hafter]
      split at hhere
      next =>
        have hsigma := hhere _ (List.mem_singleton_self _)
        split at hsigma <;> cases hsigma
      next hsigma =>
        split at hhere
        next =>
          have hdot := hhere (Char.ofNat 0x307) (by simp)
          cases hdot
        next hdotted =>
          rw [if_neg hsigma, if_neg hdotted,
            eq_of_isPlain_simpleLower hd (hhere _ (List.mem_singleton_self _))]
          rfl

/-- A text that is part of a lower-cased one and has a plain lower-case
form is that form. -/
theorem eq_of_lower_eq {s f name : String}
    (hs : ∀ c ∈ s.toList, c ∈ (lower name).toList)
    (hf : ∀ c ∈ f.toList, isPlain c = true) (h : lower s = f) : s = f := by
  have hsmall : ∀ c ∈ s.toList, hasPlainLower c = false := by
    intro c hc
    have hmem := hs c hc
    rw [lower, String.toList_ofList] at hmem
    exact hasPlainLower_of_mem_lowerAfter hmem
  have hchars : lowerAfter [] s.toList = f.toList := by
    rw [← h, lower, String.toList_ofList]
  have hself := lowerAfter_eq_self [] hsmall (hchars ▸ hf)
  rw [hchars] at hself
  exact String.toList_injective hself.symm

end Outline.Text
