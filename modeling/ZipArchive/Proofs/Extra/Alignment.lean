import Mathlib.Data.Nat.Bitwise
import ZipArchive.Extra.Alignment
import ZipArchive.Proofs.LittleEndian

/-!
# Laws of alignment requests

The number of a request and the bit above it fall apart again, since the number leaves that bit
free: `withWord_word`. So a local payload is read as the request it was written for, and its padding
is what is left of the payload, `ofLocal_localData`.
-/

namespace ZipArchive.Extra.Alignment

/-! ### The word -/

private theorem toNat_alignment_lt (a : Alignment) : a.alignment.toNat < 2 ^ 15 :=
  Nat.lt_succ_of_le (UInt16.le_iff_toNat_le.1 a.alignment_le)

/-- The bit above a number is added to it. -/
theorem toNat_word (a : Alignment) :
    a.word.toNat = a.alignment.toNat + 2 ^ 15 * a.allowMethodChange.toNat := by
  cases hallow : a.allowMethodChange with
  | false => simp [word, hallow]
  | true =>
    have hor := Nat.two_pow_add_eq_or_of_lt (toNat_alignment_lt a) 1
    simp only [word, hallow, if_true, UInt16.toNat_or, Bool.toNat_true]
    rw [Nat.add_comm, hor, Nat.or_comm]
    rfl

private theorem word_and_low (a : Alignment) : a.word &&& 0x7FFF = a.alignment := by
  have hlow : (0x7FFF : UInt16).toNat = 2 ^ 15 - 1 := rfl
  have hlt := toNat_alignment_lt a
  rw [← UInt16.toNat_inj, UInt16.toNat_and, hlow, Nat.and_two_pow_sub_one_eq_mod, toNat_word,
    Nat.add_mul_mod_self_left, Nat.mod_eq_of_lt hlt]

private theorem word_and_high (a : Alignment) : (a.word &&& 0x8000 != 0) = a.allowMethodChange := by
  -- the number is below the bit, so that bit fifteen of the sum is the one that was added
  have hhigh : (0x8000 : UInt16).toNat = 2 ^ 15 := rfl
  have hlt := toNat_alignment_lt a
  have hvalue : (a.word &&& 0x8000).toNat = 2 ^ 15 * a.allowMethodChange.toNat := by
    rw [UInt16.toNat_and, hhigh, toNat_word, Nat.and_two_pow, Nat.mul_comm,
      Nat.testBit_eq_decide_div_mod_eq, Nat.add_mul_div_left _ _ (by decide),
      Nat.div_eq_of_lt hlt]
    cases a.allowMethodChange with
    | false => rfl
    | true => rfl
  cases hallow : a.allowMethodChange with
  | false =>
    rw [hallow] at hvalue
    rw [bne_eq_false_iff_eq, ← UInt16.toNat_inj, hvalue]
    rfl
  | true =>
    rw [hallow] at hvalue
    rw [bne_iff_ne, ne_eq, ← UInt16.toNat_inj, hvalue]
    decide

/-- A request is read back from its word. -/
theorem withWord_word (a b : Alignment) (rest : Bytes) :
    b.withWord (bytes16 a.word ++ rest) = { a with padding := b.padding } := by
  have hword : UInt16.ofNat (Bytes.ofLE ((bytes16 a.word ++ rest).take 2)) = a.word := by
    rw [List.take_left' (Bytes.length_toLE ..), Bytes.ofLE_bytes16, UInt16.ofNat_toNat]
  simp only [withWord, hword, word_and_low, word_and_high]

/-! ### Payloads -/

theorem length_localData (a : Alignment) : a.localData.length = 2 + a.padding := by
  rw [localData, List.length_append, Bytes.length_toLE, List.length_replicate]

theorem length_centralData (a : Alignment) : a.centralData.length = 2 :=
  Bytes.length_toLE ..

/-- A request is read back from its local payload. -/
theorem ofLocal_localData (a b : Alignment) :
    { b.withWord a.localData with padding := a.localData.length - 2 } = a := by
  simp only [localData, withWord_word, List.length_append, Bytes.length_toLE,
    List.length_replicate, Nat.add_sub_cancel_left]

/-- From the central payload it is read back but for the padding. -/
theorem withWord_centralData (a b : Alignment) :
    b.withWord a.centralData = { a with padding := b.padding } := by
  have hword := withWord_word a b []
  rwa [List.append_nil] at hword

/-! ### What is read is written -/

/-- A word is its low bits and the bit above them. -/
theorem word_withWord (a : Alignment) (payload : Bytes) :
    (a.withWord payload).word = UInt16.ofNat (Bytes.ofLE (payload.take 2)) := by
  generalize hw : UInt16.ofNat (Bytes.ofLE (payload.take 2)) = w
  have hlow : (a.withWord payload).alignment.toNat = w.toNat % 2 ^ 15 := by
    rw [← hw]
    exact Nat.and_two_pow_sub_one_eq_mod _ 15
  have hand : (w &&& 0x8000).toNat = (w.toNat.testBit 15).toNat * 2 ^ 15 := by
    rw [UInt16.toNat_and]
    exact Nat.and_two_pow w.toNat 15
  have hhigh : (a.withWord payload).allowMethodChange = w.toNat.testBit 15 := by
    have hallow : (a.withWord payload).allowMethodChange = (w &&& 0x8000 != 0) := by
      rw [← hw]
      rfl
    rw [hallow, bne, ← Bool.not_inj_iff, Bool.not_not, Bool.eq_iff_iff, beq_iff_eq,
      ← UInt16.toNat_inj, hand]
    cases w.toNat.testBit 15 <;> decide
  rw [← UInt16.toNat_inj, toNat_word, hlow, hhigh, Nat.testBit_eq_decide_div_mod_eq]
  have hlt := w.toNat_lt
  by_cases hbit : w.toNat / 2 ^ 15 % 2 = 1
  · rw [decide_eq_true hbit, Bool.toNat_true]
    omega
  · rw [decide_eq_false hbit, Bool.toNat_false]
    omega

/-- The word of a payload that is read is written again. -/
theorem bytes16_word_withWord (a : Alignment) {payload : Bytes} (h : 2 ≤ payload.length) :
    bytes16 (a.withWord payload).word = payload.take 2 := by
  have hlength : (payload.take 2).length = 2 := by
    rw [List.length_take]
    omega
  rw [word_withWord, Bytes.bytes16_ofNat, Bytes.toLE_ofLE_of_length hlength]

end ZipArchive.Extra.Alignment
