/-
Reading what was written gives the same text.

A character is written as a leading byte, which holds its highest bits,
and up to three more, which hold six bits each. The leading bytes are few,
so what the reader makes of each is checked one by one (`lead_two`,
`lead_three`, `lead_four`): the bits, how many bytes are owed, and the
narrower range after four of them. That this range never shuts out the
second byte of a character is where it counts that a character is no
surrogate, is not past U+10FFFF, and is written in as few bytes as can be.

So the reader is through with a character at its last byte
(`decodeFrom_utf8EncodeChar`), and by induction with a text, whatever comes
behind it (`decode_encode_append`).
-/
import Outline.Proofs.Text.Utf8

namespace Outline.Utf8

-- ================================================================= bytes

/-- What the first of two bytes begins. -/
theorem lead_two : ∀ k < 32, 2 ≤ k →
    lead (UInt8.ofNat (k % 32 + 192)) = .begins { bits := k, owed := 1 } := by
  decide

/-- What the first of three bytes begins. -/
theorem lead_three : ∀ k < 16, lead (UInt8.ofNat (k % 16 + 224))
    = .begins {
        bits := k
        owed := 2
        low := if k = 0 then 0xA0 else 0x80
        high := if k = 13 then 0x9F else 0xBF } := by
  decide

/-- What the first of four bytes begins. -/
theorem lead_four : ∀ k < 5, lead (UInt8.ofNat (k % 8 + 240))
    = .begins {
        bits := k
        owed := 3
        low := if k = 0 then 0x90 else 0x80
        high := if k = 4 then 0x8F else 0xBF } := by
  decide

theorem lead_one {n : Nat} (h : n < 128) :
    lead (UInt8.ofNat n) = .whole (Char.ofNat n) := by
  have hn : (UInt8.ofNat n).toNat = n := by
    rw [UInt8.toNat_ofNat']
    omega
  rw [lead, hn]
  simp [h]

section Tail

variable {b : Begun} {n : Nat} {rest : List UInt8}

theorem toNat_tail (n : Nat) :
    (UInt8.ofNat (n % 64 + 128)).toNat = n % 64 + 128 := by
  rw [UInt8.toNat_ofNat']
  omega

theorem accepts_tail (hlow : b.low ≤ n % 64 + 128)
    (hhigh : n % 64 + 128 ≤ b.high) :
    b.accepts (UInt8.ofNat (n % 64 + 128)) = true := by
  rw [Begun.accepts, toNat_tail]
  exact Bool.and_eq_true_iff.mpr ⟨decide_eq_true hlow, decide_eq_true hhigh⟩

/-- A byte that continues a character adds six bits. -/
theorem extend_tail (b : Begun) (n : Nat) :
    b.extend (UInt8.ofNat (n % 64 + 128)) = b.bits * 64 + n % 64 := by
  unfold Begun.extend
  rw [toNat_tail]
  omega

/-- The last byte of a character ends it. -/
theorem decodeFrom_last (howed : b.owed = 1) (hlow : b.low ≤ n % 64 + 128)
    (hhigh : n % 64 + 128 ≤ b.high) :
    decodeFrom (some b) (UInt8.ofNat (n % 64 + 128) :: rest)
      = Char.ofNat (b.bits * 64 + n % 64) :: decodeFrom none rest := by
  rw [decodeFrom, if_pos (accepts_tail hlow hhigh), if_pos howed, extend_tail]

/-- Any other byte of a character takes it further. -/
theorem decodeFrom_further (howed : b.owed ≠ 1)
    (hlow : b.low ≤ n % 64 + 128) (hhigh : n % 64 + 128 ≤ b.high) :
    decodeFrom (some b) (UInt8.ofNat (n % 64 + 128) :: rest)
      = decodeFrom (some { bits := b.bits * 64 + n % 64, owed := b.owed - 1 })
        rest := by
  rw [decodeFrom, if_pos (accepts_tail hlow hhigh), if_neg howed, extend_tail]

end Tail

-- ============================================================ characters

/-- What a character is written as is read as that character, and nothing
of it is left over. -/
theorem decodeFrom_utf8EncodeChar (c : Char) (rest : List UInt8) :
    decodeFrom none (String.utf8EncodeChar c ++ rest)
      = c :: decodeFrom none rest := by
  have hvalid : c.toNat < 55296 ∨ 57343 < c.toNat ∧ c.toNat < 1114112 :=
    c.valid
  have hback : ∀ n, n = c.toNat → Char.ofNat n = c := by
    rintro n rfl
    exact Char.ofNat_toNat c
  unfold String.utf8EncodeChar
  simp only [show c.val.toNat = c.toNat from rfl]
  generalize c.toNat = n at hvalid hback ⊢
  by_cases h₁ : n ≤ 127
  · rw [if_pos h₁, List.singleton_append, decodeFrom,
      lead_one (by omega)]
    simp only [hback n rfl]
  by_cases h₂ : n ≤ 2047
  · rw [if_neg h₁, if_pos h₂]
    simp only [List.cons_append, List.nil_append]
    rw [decodeFrom, lead_two (n / 64) (by omega) (by omega)]
    dsimp only
    rw [decodeFrom_last rfl (by dsimp only; omega) (by dsimp only; omega)]
    rw [hback _ (by dsimp only; omega)]
  by_cases h₃ : n ≤ 65535
  · rw [if_neg h₁, if_neg h₂, if_pos h₃]
    simp only [List.cons_append, List.nil_append]
    rw [decodeFrom, lead_three (n / 4096) (by omega)]
    dsimp only
    -- `n` is above U+07FF and no surrogate, so the second byte is in range
    rw [decodeFrom_further (Nat.succ_succ_ne_one _)
      (by dsimp only; split <;> omega) (by dsimp only; split <;> omega)]
    rw [decodeFrom_last rfl (by dsimp only; omega) (by dsimp only; omega)]
    rw [hback _ (by dsimp only; omega)]
  · rw [if_neg h₁, if_neg h₂, if_neg h₃]
    simp only [List.cons_append, List.nil_append]
    rw [decodeFrom, lead_four (n / 262144) (by omega)]
    dsimp only
    -- `n` is above U+FFFF and not past U+10FFFF
    rw [decodeFrom_further (Nat.succ_succ_ne_one _)
      (by dsimp only; split <;> omega) (by dsimp only; split <;> omega)]
    rw [decodeFrom_further (Nat.succ_succ_ne_one _) (by dsimp only; omega)
      (by dsimp only; omega)]
    rw [decodeFrom_last rfl (by dsimp only; omega) (by dsimp only; omega)]
    rw [hback _ (by dsimp only; omega)]

-- ================================================================== texts

/-- The bytes of a text are those of its characters. -/
theorem encode_eq (text : String) :
    encode text = text.toList.flatMap String.utf8EncodeChar := by
  obtain ⟨cs, rfl⟩ : ∃ cs, text = String.ofList cs :=
    ⟨_, String.ofList_toList.symm⟩
  calc encode (String.ofList cs)
      = (cs.flatMap String.utf8EncodeChar).toByteArray.data.toList :=
        toList_loop _ 0 []
    _ = (String.ofList cs).toList.flatMap String.utf8EncodeChar := by
        simp

theorem decodeFrom_encode_append (text : String) (rest : List UInt8) :
    decodeFrom none (encode text ++ rest)
      = text.toList ++ decodeFrom none rest := by
  rw [encode_eq]
  induction text.toList with
  | nil => rfl
  | cons c cs ih =>
      rw [List.flatMap_cons, List.append_assoc, decodeFrom_utf8EncodeChar, ih]
      rfl

/-- A text in front is read as it is, and the rest as if it stood
alone. -/
theorem decode_encode_append (text : String) (rest : List UInt8) :
    decode (encode text ++ rest) = text ++ decode rest := by
  rw [decode, decodeFrom_encode_append, String.ofList_append,
    String.ofList_toList]
  rfl

theorem decode_encode (text : String) : decode (encode text) = text := by
  have h := decode_encode_append text []
  rw [List.append_nil] at h
  rw [h]
  exact String.append_empty

/-- Only no bytes are read as the empty text. -/
theorem decode_eq_empty_iff {bytes : List UInt8} :
    decode bytes = "" ↔ bytes = [] := by
  rw [← String.isEmpty_iff, isEmpty_decode, List.isEmpty_iff]

/-- Bytes that are well-formed UTF-8. -/
def IsText (bytes : List UInt8) : Prop := bytes.toByteArray.IsValidUTF8

theorem isText_iff {bytes : List UInt8} :
    IsText bytes ↔ ∃ text, encode text = bytes := by
  constructor
  · rintro ⟨cs, hcs⟩
    refine ⟨String.ofList cs, ?_⟩
    rw [encode_eq, String.toList_ofList]
    have hbytes := congrArg (·.data.toList) hcs.symm
    simp only [List.utf8Encode] at hbytes
    simpa using hbytes
  · rintro ⟨text, rfl⟩
    refine ⟨text.toList, ?_⟩
    rw [encode_eq]
    rfl

/-- Reading gives a text with the same bytes just if they are well-formed:
a replacement is never written as what it stands for. -/
theorem encode_decode_eq_iff {bytes : List UInt8} :
    encode (decode bytes) = bytes ↔ IsText bytes := by
  rw [isText_iff]
  constructor
  · intro h
    exact ⟨_, h⟩
  · rintro ⟨text, rfl⟩
    rw [decode_encode]

end Outline.Utf8
