import ZipArchive.Proofs.Charset.Reads

/-!
# UTF-8 read back

The bytes of a character in UTF-8 read as this character, whatever follows them:
`exists_ofChar_eq`. So every text reads back, `reads_ofText`. They are also the bytes in which the
core library keeps a text, `ofText_toList`.
-/

namespace ZipArchive.Charset.Utf8

/-- A byte behind the first of a character, with six bits of `m`. -/
def trail (m : Nat) : UInt8 := UInt8.ofNat (0x80 + m % 64)

private theorem toNat_trail (m : Nat) : (trail m).toNat = 0x80 + m % 64 :=
  UInt8.toNat_ofNat_of_lt' (by simp only [UInt8.size]; omega)

/-- A byte in range is read onto the value before. -/
theorem continuation_trail {n size more m : Nat} {low high : UInt8} (rest : Bytes)
    (hlow : low.toNat ≤ 0x80 + m % 64) (hhigh : 0x80 + m % 64 ≤ high.toNat) :
    continuation n size low high (more + 1) (trail m :: rest) =
      continuation (n * 64 + m % 64) (size + 1) 0x80 0xBF more rest := by
  have hrange : low ≤ trail m ∧ trail m ≤ high := by
    rw [UInt8.le_iff_toNat_le, UInt8.le_iff_toNat_le, toNat_trail]
    exact ⟨hlow, hhigh⟩
  rw [continuation, if_pos hrange, toNat_trail, Nat.add_sub_cancel_left]

/-- Behind the second byte of a character any byte of its form is in range. -/
theorem continuation_trail_any {n size more m : Nat} (rest : Bytes) :
    continuation n size 0x80 0xBF (more + 1) (trail m :: rest) =
      continuation (n * 64 + m % 64) (size + 1) 0x80 0xBF more rest := by
  have hm : m % 64 < 64 := Nat.mod_lt _ (by decide)
  have hhigh : (0xBF : UInt8).toNat = 191 := rfl
  exact continuation_trail rest (Nat.le_add_right 128 _) (by omega)

/-- The value of a character read from its bytes. -/
theorem continuation_zero {n : Nat} (size : Nat) (ch : Char) (rest : Bytes) (h : n = ch.toNat) :
    continuation n size 0x80 0xBF 0 rest = .char ch size := by
  rw [continuation, h, Char.ofNat_toNat]

private theorem toNat_lead {n : Nat} (h : n < 256) : (UInt8.ofNat n).toNat = n :=
  UInt8.toNat_ofNat_of_lt' h

/-! ### Characters by the number of their bytes -/

private theorem read_two {ch : Char} (h : 0x80 ≤ ch.toNat) (h' : ch.toNat < 0x800) (rest : Bytes) :
    read (UInt8.ofNat (0xC0 + ch.toNat / 64)) (trail ch.toNat :: rest) = .char ch 2 := by
  have hlead := toNat_lead (n := 0xC0 + ch.toNat / 64) (by omega)
  rw [read, hlead, if_neg (by omega), if_neg (by omega), if_pos (by omega),
    continuation_trail_any, continuation_zero _ ch rest (by omega)]

/-- What the lead byte of three says of the second is so for characters. -/
theorem read_three {ch : Char} (h : 0x800 ≤ ch.toNat) (h' : ch.toNat < 0x10000) (rest : Bytes) :
    read (UInt8.ofNat (0xE0 + ch.toNat / 4096)) (trail (ch.toNat / 64) :: trail ch.toNat :: rest) =
      .char ch 3 := by
  have hvalid : ch.toNat < 0xD800 ∨ 0xDFFF < ch.toNat ∧ ch.toNat < 0x110000 := ch.valid
  have hlead := toNat_lead (n := 0xE0 + ch.toNat / 4096) (by omega)
  have hlow : (0xA0 : UInt8).toNat = 160 ∧ (0x80 : UInt8).toNat = 128 := ⟨rfl, rfl⟩
  have hhigh : (0xBF : UInt8).toNat = 191 ∧ (0x9F : UInt8).toNat = 159 := ⟨rfl, rfl⟩
  rw [read, hlead, if_neg (by omega), if_neg (by omega), if_neg (by omega)]
  by_cases hfirst : ch.toNat / 4096 = 0
  · rw [if_pos (by omega), continuation_trail _ (by omega) (by omega), continuation_trail_any,
      continuation_zero _ ch rest (by omega)]
  by_cases hsurrogate : ch.toNat / 4096 = 13
  · rw [if_neg (by omega), if_pos (by omega), continuation_trail _ (by omega) (by omega),
      continuation_trail_any, continuation_zero _ ch rest (by omega)]
  · rw [if_neg (by omega), if_neg (by omega), if_pos (by omega), continuation_trail_any,
      continuation_trail_any, continuation_zero _ ch rest (by omega)]

/-- What the lead byte of four says of the second is so for characters. -/
theorem read_four {ch : Char} (h : 0x10000 ≤ ch.toNat) (rest : Bytes) :
    read (UInt8.ofNat (0xF0 + ch.toNat / 262144))
      (trail (ch.toNat / 4096) :: trail (ch.toNat / 64) :: trail ch.toNat :: rest) =
        .char ch 4 := by
  have hvalid : ch.toNat < 0xD800 ∨ 0xDFFF < ch.toNat ∧ ch.toNat < 0x110000 := ch.valid
  have hlead := toNat_lead (n := 0xF0 + ch.toNat / 262144) (by omega)
  have hlow : (0x90 : UInt8).toNat = 144 ∧ (0x80 : UInt8).toNat = 128 := ⟨rfl, rfl⟩
  have hhigh : (0xBF : UInt8).toNat = 191 ∧ (0x8F : UInt8).toNat = 143 := ⟨rfl, rfl⟩
  rw [read, hlead, if_neg (by omega), if_neg (by omega), if_neg (by omega), if_neg (by omega),
    if_neg (by omega), if_neg (by omega)]
  by_cases hfirst : ch.toNat / 262144 = 0
  · rw [if_pos (by omega), continuation_trail _ (by omega) (by omega), continuation_trail_any,
      continuation_trail_any, continuation_zero _ ch rest (by omega)]
  by_cases hlast : ch.toNat / 262144 = 4
  · rw [if_neg (by omega), if_neg (by omega), if_pos (by omega),
      continuation_trail _ (by omega) (by omega), continuation_trail_any, continuation_trail_any,
      continuation_zero _ ch rest (by omega)]
  · rw [if_neg (by omega), if_pos (by omega), continuation_trail_any, continuation_trail_any,
      continuation_trail_any, continuation_zero _ ch rest (by omega)]

/-! ### Texts -/

/-- The bytes of a character read as this character. -/
theorem exists_ofChar_eq (ch : Char) :
    ∃ b tail, ofChar ch = b :: tail ∧
      ∀ rest, read b (tail ++ rest) = .char ch (tail.length + 1) := by
  by_cases hone : ch.toNat < 0x80
  · refine ⟨_, [], by rw [ofChar, if_pos hone], fun rest => ?_⟩
    rw [List.nil_append, read, toNat_ofNat_of_ascii hone, if_pos hone, Char.ofNat_toNat]
    rfl
  by_cases htwo : ch.toNat < 0x800
  · exact ⟨_, [trail ch.toNat], by rw [ofChar, if_neg hone, if_pos htwo]; rfl,
      read_two (by omega) htwo⟩
  by_cases hthree : ch.toNat < 0x10000
  · exact ⟨_, [trail (ch.toNat / 64), trail ch.toNat],
      by rw [ofChar, if_neg hone, if_neg htwo, if_pos hthree]; rfl, read_three (by omega) hthree⟩
  · exact ⟨_, [trail (ch.toNat / 4096), trail (ch.toNat / 64), trail ch.toNat],
      by rw [ofChar, if_neg hone, if_neg htwo, if_neg hthree]; rfl, read_four (by omega)⟩

/-- Every text reads back. -/
theorem reads_ofText (set : Designation) (text : List Char) :
    utf8.Reads set (ofText text) text := by
  induction text generalizing set with
  | nil => exact reads_nil_iff.2 rfl
  | cons ch text ih =>
    obtain ⟨b, tail, hbytes, hread⟩ := exists_ofChar_eq ch
    have hread' : utf8.read set b (tail ++ ofText text) = .char ch (tail.length + 1) := hread _
    rw [ofText, List.flatMap_cons, hbytes, List.cons_append, reads_cons_iff]
    refine ⟨[ch], text, ?_, ?_, rfl⟩
    · exact congrArg Reading.text? hread'
    · have hdrop : (tail ++ ofText text).drop (tail.length + 1 - 1) = ofText text := List.drop_left
      have hrest : utf8.Reads .ascii ((tail ++ ofText text).drop (tail.length + 1 - 1)) text := by
        rw [hdrop]
        exact ih .ascii
      rw [← ofText, hread']
      exact hrest

/-! ### The form of the core library -/

/-- The bytes of a character are those of the core library. -/
theorem ofChar_eq_utf8EncodeChar (ch : Char) : ofChar ch = String.utf8EncodeChar ch := by
  have hvalid : ch.toNat < 0xD800 ∨ 0xDFFF < ch.toNat ∧ ch.toNat < 0x110000 := ch.valid
  have hval : ch.val.toNat = ch.toNat := rfl
  simp only [ofChar, String.utf8EncodeChar, hval]
  by_cases hone : ch.toNat < 0x80
  · rw [if_pos hone, if_pos (by omega)]
  by_cases htwo : ch.toNat < 0x800
  · have hlead : ch.toNat / 64 % 32 = ch.toNat / 64 := by omega
    rw [if_neg hone, if_pos htwo, if_neg (by omega), if_pos (by omega), hlead, Nat.add_comm 192,
      Nat.add_comm 128]
  by_cases hthree : ch.toNat < 0x10000
  · have hlead : ch.toNat / 4096 % 16 = ch.toNat / 4096 := by omega
    rw [if_neg hone, if_neg htwo, if_pos hthree, if_neg (by omega), if_neg (by omega),
      if_pos (by omega), hlead, Nat.add_comm 224, Nat.add_comm 128, Nat.add_comm 128]
  · have hlead : ch.toNat / 262144 % 8 = ch.toNat / 262144 := by omega
    rw [if_neg hone, if_neg htwo, if_neg hthree, if_neg (by omega), if_neg (by omega),
      if_neg (by omega), hlead, Nat.add_comm 240, Nat.add_comm 128, Nat.add_comm 128,
      Nat.add_comm 128]

/-- The bytes of a text are those in which the core library keeps it. -/
theorem ofText_toList (text : String) : ofText text.toList = text.toUTF8.data.toList := by
  have hbytes : text.toUTF8 = (text.toList.flatMap String.utf8EncodeChar).toByteArray :=
    String.utf8Encode_toList.symm
  rw [hbytes, List.data_toByteArray, ofText]
  simp only [funext ofChar_eq_utf8EncodeChar]

end ZipArchive.Charset.Utf8
