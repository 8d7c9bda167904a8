/-
Lower-casing twice is lower-casing once.

Extensions are lower-cased when a language is made of a pack and once more
when they are put in a table, so the table has what the language has only
if the second time changes nothing. A character is left alone if the table
of lower-case forms does not list it and it is none of the two characters
with rules of their own. No lower-case form is listed: the code points of
the forms and those of the listed characters are two sets, written as the
bits of two numbers, which have no bit in common (`capitals_forms`).
-/
import Outline.Proofs.Text.Lower

namespace Outline.Text

-- ================================================================== table

/-- The code points of a run. -/
def members : Nat × Nat × Nat × Int → List Nat
  | (first, last, step, _) =>
    (List.range ((last - first) / step + 1)).map (first + step * ·)

/-- The code points of the lower-case forms of a run. -/
def forms (run : Nat × Nat × Nat × Int) : List Nat :=
  (members run).map fun n : Nat => ((n : Int) + run.2.2.2).toNat

/-- The code points of all characters that lower-casing changes, those
with a rule of their own first. -/
def allCapitals : List Nat :=
  0x130 :: lowerRuns.toList.flatMap members

/-- The code points of all lower-case forms. -/
def allForms : List Nat := lowerRuns.toList.flatMap forms

/-- The number with these bits. -/
def bits : List Nat → Nat
  | [] => 0
  | n :: rest => 1 <<< n ||| bits rest

theorem testBit_bits {ns : List Nat} {n : Nat} :
    (bits ns).testBit n = true ↔ n ∈ ns := by
  induction ns with
  | nil => simp [bits]
  | cons m rest ih =>
      rw [bits, Nat.one_shiftLeft, Nat.testBit_or, Bool.or_eq_true, ih,
        Nat.testBit_two_pow, decide_eq_true_eq, List.mem_cons, eq_comm]

theorem capitals_forms : bits allCapitals &&& bits allForms = 0 := by
  decide +kernel

theorem not_mem_capitals_of_mem_forms {n : Nat} (h : n ∈ allForms) :
    n ∉ allCapitals := by
  intro hcapital
  have hboth : (bits allCapitals &&& bits allForms).testBit n = true := by
    rw [Nat.testBit_and, testBit_bits.mpr hcapital, testBit_bits.mpr h]
    rfl
  rw [capitals_forms, Nat.zero_testBit] at hboth
  cases hboth

theorem sigma_mem_capitals : 0x3A3 ∈ allCapitals := by
  decide +kernel

/-- The rules of their own write a sigma or a dot above. -/
theorem not_mem_capitals_of_written :
    ∀ n ∈ [0x3C2, 0x3C3, 0x307], n ∉ allCapitals := by
  decide +kernel

/-- What is between the ends of a run, and a number of steps from the
first, is one of its members. -/
theorem mem_members {n first last step : Nat} {distance : Int}
    (hfirst : first ≤ n) (hlast : n ≤ last)
    (hstep : (n - first) % step = 0) :
    n ∈ members (first, last, step, distance) := by
  refine List.mem_map.mpr ⟨(n - first) / step, ?_, ?_⟩
  · rw [List.mem_range, Nat.lt_succ_iff]
    exact Nat.div_le_div_right (Nat.sub_le_sub_right hlast first)
  · have hdivision := Nat.div_add_mod (n - first) step
    omega

theorem isPlain_simpleLower {c : Char} (h : isPlain c = true) :
    isPlain (simpleLower c) = true := by
  have hall : ∀ n < 0x80, isPlain (simpleLower (Char.ofNat n)) = true := by
    decide +kernel
  have hc := hall c.toNat (by simpa [isPlain] using h)
  rwa [Char.ofNat_toNat] at hc

/-- Beyond the plain characters lower-casing changes a listed character to
one of the forms, and no other. -/
theorem simpleLower_cases {c : Char} (h : isPlain c = false) :
    simpleLower c = c
      ∨ c.toNat ∈ allCapitals
        ∧ (isPlain (simpleLower c) = true ∨ (simpleLower c).toNat ∈ allForms)
    := by
  have hbeyond : 0x80 ≤ c.toNat := by simpa [isPlain] using h
  unfold simpleLower
  rw [if_neg (Nat.not_lt.mpr hbeyond)]
  split
  next first last step distance hrun =>
    have hin := Array.find?_some hrun
    simp only [Bool.and_eq_true, decide_eq_true_eq, beq_iff_eq] at hin
    have hlisted := Array.mem_of_find?_eq_some hrun
    have hmember : c.toNat ∈ members (first, last, step, distance) :=
      mem_members hin.1.1 hin.1.2 hin.2
    refine .inr ⟨List.mem_cons_of_mem _ (List.mem_flatMap.mpr
      ⟨_, hlisted.val, hmember⟩), ?_⟩
    by_cases hvalid : (((c.toNat : Int) + distance).toNat).isValidChar
    · refine .inr (List.mem_flatMap.mpr ⟨_, hlisted.val, ?_⟩)
      rw [toNat_ofNat hvalid]
      exact List.mem_map.mpr ⟨_, hmember, rfl⟩
    · -- the table has no such run
      left
      rw [Char.ofNat, dif_neg hvalid]
      rfl
  next => exact .inl rfl

-- ============================================================= characters

/-- Lower-casing leaves this character alone wherever it stands. -/
structure IsLowered (c : Char) : Prop where
  not_sigma : c ≠ 'Σ'
  not_dotted : c.toNat ≠ 0x130
  fixed : simpleLower c = c

theorem IsLowered.of_isPlain {c : Char} (h : isPlain c = true)
    (hlower : hasPlainLower c = false) : IsLowered c := by
  have hsmall : c.toNat < 0x80 := by simpa [isPlain] using h
  refine ⟨?_, by omega, (simpleLower_plain h).2 hlower⟩
  rintro rfl
  exact absurd hsmall (by decide)

/-- The two characters with rules of their own are listed with the
others. -/
theorem IsLowered.of_not_mem {c : Char} (h : c.toNat ∉ allCapitals)
    (hplain : isPlain c = false) : IsLowered c := by
  refine ⟨?_, fun hdotted => ?_, ?_⟩
  · rintro rfl
    exact h sigma_mem_capitals
  · rw [hdotted] at h
    exact h List.mem_cons_self
  · exact (simpleLower_cases hplain).resolve_right fun hlisted => h hlisted.1

/-- The lower-case form of a character without a rule of its own. -/
theorem isLowered_simpleLower {c : Char} (hsigma : c ≠ 'Σ')
    (hdotted : c.toNat ≠ 0x130) : IsLowered (simpleLower c) := by
  cases hform : isPlain (simpleLower c) with
  | true => exact .of_isPlain hform (hasPlainLower_simpleLower c)
  | false =>
      have hc : isPlain c = false := by
        cases hplain : isPlain c with
        | false => rfl
        | true =>
            rw [isPlain_simpleLower hplain] at hform
            cases hform
      rcases simpleLower_cases hc with hself | ⟨-, hplain | hlisted⟩
      · rw [hself]
        exact ⟨hsigma, hdotted, hself⟩
      · rw [hplain] at hform
        cases hform
      · exact .of_not_mem (not_mem_capitals_of_mem_forms hlisted) hform

-- ================================================================== texts

/-- The characters of a lower-cased text are lower-cased. -/
theorem isLowered_of_mem_lowerAfter {before cs : List Char} {c : Char}
    (h : c ∈ lowerAfter before cs) : IsLowered c := by
  induction cs generalizing before with
  | nil => cases h
  | cons d rest ih =>
      rw [lowerAfter] at h
      rcases List.mem_append.mp h with h | h
      · split at h
        next =>
          -- a sigma, in one of its two forms
          rw [List.mem_singleton] at h
          split at h <;> subst h
          · exact .of_not_mem (not_mem_capitals_of_written 0x3C2 (by decide)) rfl
          · exact .of_not_mem (not_mem_capitals_of_written 0x3C3 (by decide)) rfl
        next hsigma =>
          split at h
          next =>
            -- the two characters of a capital I with a dot
            rcases List.mem_cons.mp h with rfl | h
            · exact .of_isPlain rfl rfl
            · rw [List.mem_singleton.mp h]
              exact .of_not_mem (not_mem_capitals_of_written 0x307 (by decide))
                rfl
          next hdotted =>
            rw [List.mem_singleton.mp h]
            exact isLowered_simpleLower (mt beq_iff_eq.mpr hsigma)
              (mt beq_iff_eq.mpr hdotted)
      · exact ih h

/-- A text of lower-cased characters is left alone. -/
theorem lowerAfter_of_isLowered (before : List Char) {cs : List Char}
    (h : ∀ c ∈ cs, IsLowered c) : lowerAfter before cs = cs := by
  induction cs generalizing before with
  | nil => rfl
  | cons d rest ih =>
      obtain ⟨hd, hrest⟩ := List.forall_mem_cons.mp h
      rw [lowerAfter, ih _ hrest, if_neg (mt beq_iff_eq.mp hd.not_sigma),
        if_neg (mt beq_iff_eq.mp hd.not_dotted), hd.fixed]
      rfl

/-- Lower-casing a second time changes nothing. -/
theorem lower_lower (s : String) : lower (lower s) = lower s := by
  unfold lower
  rw [String.toList_ofList]
  exact congrArg String.ofList
    (lowerAfter_of_isLowered [] fun c hc => isLowered_of_mem_lowerAfter hc)

end Outline.Text
