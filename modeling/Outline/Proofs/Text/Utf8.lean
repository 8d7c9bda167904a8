/-
Bytes and texts.

A character that has begun is finished or replaced, so it leaves a trace
in the text whatever follows. Hence only the empty list of bytes has the
empty text. In the other direction, texts in a row have their bytes in a
row.
-/
import Outline.Text.Utf8

namespace Outline.Utf8

-- ================================================================ reading

/-- A character that has begun leaves something behind. -/
theorem decodeFrom_begun_ne_nil (bytes : List UInt8) :
    ∀ b : Begun, decodeFrom (some b) bytes ≠ [] := by
  induction bytes with
  | nil => exact fun b => List.cons_ne_nil _ _
  | cons byte rest ih =>
      intro b
      rw [decodeFrom]
      split
      next =>
        split
        next => exact List.cons_ne_nil _ _
        next => exact ih _
      next => exact List.cons_ne_nil _ _

theorem decodeFrom_cons_ne_nil (byte : UInt8) (rest : List UInt8) :
    decodeFrom none (byte :: rest) ≠ [] := by
  rw [decodeFrom]
  split
  next => exact List.cons_ne_nil _ _
  next => exact decodeFrom_begun_ne_nil rest _
  next => exact List.cons_ne_nil _ _

/-- Only no bytes give no text. -/
theorem isEmpty_decode (bytes : List UInt8) :
    (decode bytes).isEmpty = bytes.isEmpty := by
  cases bytes with
  | nil => rfl
  | cons byte rest =>
      rw [List.isEmpty_cons, decode, String.isEmpty_eq_false_iff]
      intro h
      exact decodeFrom_cons_ne_nil byte rest (String.ofList_eq_empty_iff.mp h)

-- ================================================================ writing

/-- The bytes of an array from an index on, behind those that were read. -/
theorem toList_loop (bytes : ByteArray) (i : Nat) (read : List UInt8) :
    ByteArray.toList.loop bytes i read
      = read.reverse ++ bytes.data.toList.drop i := by
  fun_induction ByteArray.toList.loop bytes i read with
  | case1 i read hlt ih =>
      have hlt' : i < bytes.data.toList.length := hlt
      have hget : bytes.get! i = bytes.data.toList[i] := by
        rw [ByteArray.get!, Array.getElem_toList]
        exact getElem!_pos bytes.data i hlt
      rw [ih, List.reverse_cons, List.append_assoc, List.singleton_append,
        List.drop_eq_getElem_cons hlt', hget]
  | case2 i read hge =>
      have hge' : bytes.data.toList.length ≤ i := Nat.le_of_not_lt hge
      rw [List.drop_of_length_le hge', List.append_nil]

/-- The bytes of two texts in a row. -/
theorem encode_append (a b : String) :
    encode (a ++ b) = encode a ++ encode b := by
  have hbytes : ∀ bytes : ByteArray, bytes.toList = bytes.data.toList :=
    fun bytes => toList_loop bytes 0 []
  unfold encode
  rw [hbytes, hbytes, hbytes, ← ByteArray.toList_data_append]
  rfl

end Outline.Utf8
