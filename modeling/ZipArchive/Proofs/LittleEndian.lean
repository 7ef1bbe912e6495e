import Mathlib.Algebra.Ring.Nat
import ZipArchive.Bytes.LittleEndian

/-!
# Laws of little-endian numbers

Writing a number and reading it back gives the number again, less what its width does not hold, and
the bytes read are those of a number below the capacity of their width. So a word can be cut out of
a number before its bytes are written, or left to the writing.
-/

namespace ZipArchive.Bytes

theorem ofLE_toLE (w n : ℕ) : ofLE (toLE w n) = n % 256 ^ w := by
  induction w generalizing n with
  | zero => simp [toLE, ofLE, Nat.mod_one]
  | succ w ih =>
    have h : n % 256 % 2 ^ 8 = n % 256 := Nat.mod_mod_of_dvd n (Nat.dvd_refl 256)
    simp only [toLE, ofLE, ih, UInt8.toNat_ofNat', h]
    rw [Nat.pow_succ', Nat.mod_mul]

theorem ofLE_lt (bs : Bytes) : ofLE bs < 256 ^ bs.length := by
  induction bs with
  | nil => simp [ofLE]
  | cons b bs ih =>
    have hb := b.toNat_lt
    simp only [ofLE, List.length_cons, Nat.pow_succ]
    omega

/-- Bits that a width does not hold do not count. -/
theorem toLE_mod (w n : ℕ) : toLE w (n % 256 ^ w) = toLE w n := by
  have h := toLE_ofLE (toLE w n)
  rwa [length_toLE, ofLE_toLE] at h

/-- The bytes of a number of known length are those that it was read from. -/
theorem toLE_ofLE_of_length {w : ℕ} {bs : Bytes} (h : bs.length = w) : toLE w (ofLE bs) = bs := by
  subst h
  exact toLE_ofLE bs

/-! ### Words -/

theorem bytes16_ofNat (n : ℕ) : bytes16 (UInt16.ofNat n) = toLE 2 n := by
  rw [bytes16, UInt16.toNat_ofNat']
  exact toLE_mod 2 n

theorem bytes32_ofNat (n : ℕ) : bytes32 (UInt32.ofNat n) = toLE 4 n := by
  rw [bytes32, UInt32.toNat_ofNat']
  exact toLE_mod 4 n

theorem bytes64_ofNat (n : ℕ) : bytes64 (UInt64.ofNat n) = toLE 8 n := by
  rw [bytes64, UInt64.toNat_ofNat']
  exact toLE_mod 8 n

@[simp] theorem ofLE_bytes16 (n : UInt16) : ofLE (bytes16 n) = n.toNat := by
  rw [ofLE_toLE]
  exact Nat.mod_eq_of_lt n.toNat_lt

@[simp] theorem ofLE_bytes32 (n : UInt32) : ofLE (bytes32 n) = n.toNat := by
  rw [ofLE_toLE]
  exact Nat.mod_eq_of_lt n.toNat_lt

@[simp] theorem ofLE_bytes64 (n : UInt64) : ofLE (bytes64 n) = n.toNat := by
  rw [ofLE_toLE]
  exact Nat.mod_eq_of_lt n.toNat_lt

end ZipArchive.Bytes
