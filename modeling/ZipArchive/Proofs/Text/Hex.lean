import ZipArchive.Text.Hex

/-!
# Laws of hexadecimal digits

The digits of a number are those of its sixteenth part with one more behind them, also when they are
padded with zeros. So a number below 65536 has the four digits that `toList_upper` says, and each
digit reads back, `digit?_upperDigit`. The characters that are read as digits are those in which a
number below sixteen is written, small or capital: `digit?_eq_some_iff`.
-/

namespace ZipArchive.Hex

/-- The capital digit of a number below sixteen. -/
def upperDigit (d : Nat) : Char := (Nat.digitChar d).toUpper

private theorem digit?_upperDigit : ∀ d < 16, digit? (upperDigit d) = some d := by decide

private theorem digit?_digitChar : ∀ d < 16, digit? d.digitChar = some d := by decide

theorem upperDigit_printable :
    ∀ d < 16, 0x20 ≤ (upperDigit d).toNat ∧ (upperDigit d).toNat < 0x80 := by
  decide

private theorem toList_lower_one {n : Nat} (h : n < 16) : (lower 1 n).toList = [n.digitChar] := by
  simp [lower, Nat.toDigits_of_lt_base h]

/-- A character is the digit of a number, small or capital. -/
def IsDigit (ch : Char) (d : Nat) : Prop :=
  ch = d.digitChar ∨ ch = upperDigit d

theorem digit?_eq_some_iff {ch : Char} {d : Nat} :
    digit? ch = some d ↔ d < 16 ∧ IsDigit ch d := by
  constructor
  · intro h
    have hcode : Char.ofNat ch.toNat = ch := Char.ofNat_toNat ch
    have hbounds : ∀ low high : Char,
        low ≤ ch ∧ ch ≤ high ↔ low.toNat ≤ ch.toNat ∧ ch.toNat ≤ high.toNat := fun _ _ => Iff.rfl
    simp only [digit?, hbounds] at h
    -- the digits of each range are told by their code points
    split at h
    case isTrue hch =>
      have hdigits : ∀ n ≤ '9'.toNat, '0'.toNat ≤ n →
          n - 48 < 16 ∧ Char.ofNat n = (n - 48).digitChar := by decide
      obtain ⟨hlt, heq⟩ := hdigits _ hch.2 hch.1
      cases h
      exact ⟨hlt, .inl (hcode.symm.trans heq)⟩
    split at h
    case isTrue hch =>
      have hdigits : ∀ n ≤ 'F'.toNat, 'A'.toNat ≤ n →
          n - 55 < 16 ∧ Char.ofNat n = upperDigit (n - 55) := by decide
      obtain ⟨hlt, heq⟩ := hdigits _ hch.2 hch.1
      cases h
      exact ⟨hlt, .inr (hcode.symm.trans heq)⟩
    split at h
    case isTrue hch =>
      have hdigits : ∀ n ≤ 'f'.toNat, 'a'.toNat ≤ n →
          n - 87 < 16 ∧ Char.ofNat n = (n - 87).digitChar := by decide
      obtain ⟨hlt, heq⟩ := hdigits _ hch.2 hch.1
      cases h
      exact ⟨hlt, .inl (hcode.symm.trans heq)⟩
    · cases h
  · rintro ⟨hd, rfl | rfl⟩
    · exact digit?_digitChar d hd
    · exact digit?_upperDigit d hd

/-- The last digit split off. -/
theorem toList_lower_succ (width n : Nat) :
    (lower (width + 2) n).toList = (lower (width + 1) (n / 16)).toList ++ [(n % 16).digitChar] := by
  by_cases h : n < 16
  · have hzero : n / 16 = 0 := Nat.div_eq_of_lt h
    have hpad : (List.replicate (width + 1) '0' : List Char) = List.replicate width '0' ++ ['0'] :=
      List.replicate_succ'
    simp [lower, Nat.toDigits_of_lt_base h, hzero, Nat.toDigits_zero, Nat.mod_eq_of_lt h, hpad]
  · have hsplit := Nat.toDigits_of_base_le (b := 16) (by decide) (Nat.le_of_not_lt h)
    simp [lower, hsplit]

/-- A number below 65536 has four digits. -/
theorem toList_upper {n : Nat} (h : n < 65536) :
    (upper 4 n).toList =
      [upperDigit (n / 4096), upperDigit (n / 256 % 16), upperDigit (n / 16 % 16),
        upperDigit (n % 16)] := by
  have hlower : (lower 4 n).toList = [(n / 4096).digitChar, (n / 256 % 16).digitChar,
      (n / 16 % 16).digitChar, (n % 16).digitChar] := by
    have hhigh : n / 16 / 16 / 16 < 16 := by omega
    rw [toList_lower_succ, toList_lower_succ, toList_lower_succ, toList_lower_one hhigh]
    simp only [Nat.div_div_eq_div_mul, List.cons_append, List.nil_append]
  rw [upper, String.toUpper, String.toList_map, hlower]
  rfl

end ZipArchive.Hex
