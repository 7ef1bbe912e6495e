import ZipArchive.Extra.Zip64
import ZipArchive.Proofs.LittleEndian

/-!
# Laws of Zip64 records

Values that stand one behind the other are read back if it is known which there are:
`ofFlags_centralData`. The local payload fills gaps with zeros, and is read as the record without
these gaps, `ofLocal_localData`. The central payload leaves missing values out, and is first read as
the record in which the values that are present are moved to the front, `ofCentral_centralData`.
Either record has the payload that it was read from. This holds of every payload that is read,
whoever wrote it: `localData_of_ofLocal` and `centralData_of_ofCentral`. There is one place for each
value, so that a central payload decides what the local one is from then on:
`localData_of_ofCentral`.
-/

namespace ZipArchive.Extra.Zip64

/-! ### Values in a row -/

private theorem length_word64 (value? : Option UInt64) :
    (word64 value?).length = 8 * value?.isSome.toNat := by
  cases value? with
  | none => rfl
  | some n => exact Bytes.length_toLE ..

private theorem length_word32 (value? : Option UInt32) :
    (word32 value?).length = 4 * value?.isSome.toNat := by
  cases value? with
  | none => rfl
  | some n => exact Bytes.length_toLE ..

/-- A value is read where it stands. -/
theorem wordAt_eq (front rest : Bytes) (n : UInt64) :
    wordAt (front ++ bytes64 n ++ rest) front.length = n := by
  rw [wordAt, List.append_assoc, List.drop_left, List.take_left' (Bytes.length_toLE ..),
    Bytes.ofLE_bytes64, UInt64.ofNat_toNat]

private theorem diskAt_eq (front : Bytes) (n : UInt32) :
    diskAt (front ++ bytes32 n) front.length = n := by
  have htake : (bytes32 n).take 4 = bytes32 n :=
    List.take_of_length_le (Nat.le_of_eq (Bytes.length_toLE ..))
  rw [diskAt, List.drop_left, htake, Bytes.ofLE_bytes32, UInt32.ofNat_toNat]

/-- The value at a position, if there is one. -/
theorem wordAt_word64 (front rest : Bytes) (value? : Option UInt64) :
    (if value?.isSome then some (wordAt (front ++ word64 value? ++ rest) front.length) else none) =
      value? := by
  cases value? with
  | none => rfl
  | some n => exact congrArg some (wordAt_eq front rest n)

private theorem diskAt_word32 (front : Bytes) (value? : Option UInt32) :
    (if value?.isSome then some (diskAt (front ++ word32 value?) front.length) else none) =
      value? := by
  cases value? with
  | none => rfl
  | some n => exact congrArg some (diskAt_eq front n)

theorem length_centralData (z : Zip64) :
    z.centralData.length = 8 * (z.size?.isSome.toNat + z.compressedSize?.isSome.toNat +
      z.offset?.isSome.toNat) + 4 * z.disk?.isSome.toNat := by
  rw [centralData, List.length_append, List.length_append, List.length_append, length_word64,
    length_word64, length_word64, length_word32, Nat.mul_add, Nat.mul_add]

/-- Values are read back by the flags of those that are present. -/
theorem ofFlags_centralData (z : Zip64) :
    ofFlags z.centralData z.size?.isSome z.compressedSize?.isSome z.offset?.isSome
      z.disk?.isSome = { z with rawCentral? := none } := by
  obtain ⟨a, b, c, d, raw⟩ := z
  have hstep : ∀ (n : ℕ) (value? : Option UInt64),
      (n + if value?.isSome = true then 8 else 0) = n + (word64 value?).length := by
    intro n value?
    cases value? <;> simp [word64]
  -- each value stands behind those that are present before it
  have hsize := wordAt_word64 [] (word64 b ++ word64 c ++ word32 d) a
  have hcompressed := wordAt_word64 (word64 a) (word64 c ++ word32 d) b
  have hoffset := wordAt_word64 (word64 a ++ word64 b) (word32 d) c
  have hdisk := diskAt_word32 (word64 a ++ word64 b ++ word64 c) d
  have hzero : (if a.isSome = true then 8 else 0) = (word64 a).length := by
    cases a <;> simp [word64]
  rw [List.length_append] at hoffset
  rw [List.length_append, List.length_append] at hdisk
  simp only [List.nil_append, List.length_nil, List.append_assoc] at hsize hcompressed hoffset hdisk
  simp only [ofFlags, centralData, hzero, hstep, List.append_assoc, hsize, hcompressed, hoffset,
    hdisk]

/-! ### Local payloads -/

/-- The record with zeros for the sizes that are missing, and for an offset that is missing before a
disk number. -/
def completed (z : Zip64) : Zip64 :=
  if z.isEmpty then {}
  else
    { size? := some (z.size?.getD 0)
      compressedSize? := some (z.compressedSize?.getD 0)
      offset? := if z.disk?.isSome then some (z.offset?.getD 0) else z.offset?
      disk? := z.disk? }

private theorem completed_of_isEmpty {z : Zip64} (h : z.isEmpty = true) : z.completed = {} := by
  rw [completed, h, if_pos rfl]

private theorem completed_of_not_isEmpty {z : Zip64} (h : z.isEmpty = false) :
    z.completed =
      { size? := some (z.size?.getD 0)
        compressedSize? := some (z.compressedSize?.getD 0)
        offset? := if z.disk?.isSome then some (z.offset?.getD 0) else z.offset?
        disk? := z.disk? } := by
  rw [completed, h, if_neg Bool.false_ne_true]

/-- The local payload has the values of the completed record. -/
theorem localData_eq_centralData_completed (z : Zip64) :
    z.localData = z.completed.centralData := by
  cases hempty : z.isEmpty with
  | true => rw [completed_of_isEmpty hempty, localData, hempty, if_pos rfl]; rfl
  | false =>
    rw [completed_of_not_isEmpty hempty, localData, hempty, if_neg Bool.false_ne_true]
    rfl

/-- A completed record has no gaps left. -/
theorem completed_completed (z : Zip64) : z.completed.completed = z.completed := by
  cases hempty : z.isEmpty with
  | true => rw [completed_of_isEmpty hempty]; rfl
  | false =>
    rw [completed_of_not_isEmpty hempty, completed_of_not_isEmpty rfl]
    cases z.disk? with
    | none => rfl
    | some disk => rfl

theorem localData_completed (z : Zip64) : z.completed.localData = z.localData := by
  rw [localData_eq_centralData_completed, localData_eq_centralData_completed z,
    completed_completed]

/-- From its local payload a record is read completed. -/
theorem ofLocal_localData (z : Zip64) : ofLocal z.localData = .ok z.completed := by
  have hlength := z.completed.length_centralData
  have hread := z.completed.ofFlags_centralData
  rw [localData_eq_centralData_completed]
  cases hempty : z.isEmpty with
  | true => rw [completed_of_isEmpty hempty]; rfl
  | false =>
    rw [completed_of_not_isEmpty hempty] at hlength hread ⊢
    -- the length tells which of the last two values are there
    cases hdisk : z.disk? with
    | some disk =>
      simp only [hdisk, Option.isSome_some, if_true, Bool.toNat_true] at hlength hread ⊢
      simp only [ofLocal, hlength, hread]
    | none =>
      cases hoffset : z.offset? with
      | some offset =>
        simp only [hdisk, hoffset, Option.isSome_some, Option.isSome_none, Bool.toNat_true,
          Bool.toNat_false, Bool.false_eq_true, if_false] at hlength hread ⊢
        simp only [ofLocal, hlength, hread]
      | none =>
        simp only [hdisk, hoffset, Option.isSome_some, Option.isSome_none, Bool.toNat_true,
          Bool.toNat_false, Bool.false_eq_true, if_false] at hlength hread ⊢
        simp only [ofLocal, hlength, hread]

/-! ### Central payloads -/

/-- The record with the values that are present moved to the front. -/
def compacted (z : Zip64) : Zip64 :=
  let words := [z.size?, z.compressedSize?, z.offset?].filterMap id
  { size? := words[0]?, compressedSize? := words[1]?, offset? := words[2]?, disk? := z.disk? }

theorem centralData_compacted (z : Zip64) : z.compacted.centralData = z.centralData := by
  obtain ⟨size?, compressedSize?, offset?, disk?, raw?⟩ := z
  cases size? <;> cases compressedSize? <;> cases offset? <;> simp [compacted, centralData, word64]

/-- In a payload without gaps the number of values tells which there are. -/
theorem flags_of_compact : ∀ size compressed offset disk : Bool,
    (compressed → size) → (offset → compressed) →
    (decide (0 < size.toNat + compressed.toNat + offset.toNat) = size ∧
      decide (1 < size.toNat + compressed.toNat + offset.toNat) = compressed ∧
      decide (2 < size.toNat + compressed.toNat + offset.toNat) = offset) ∧
    decide (4 * disk.toNat = 4) = disk ∧ (4 * disk.toNat = 0 ∨ 4 * disk.toNat = 4) := by
  decide

/-- A payload without gaps is read as it was written. -/
theorem ofCentral_of_compact {z : Zip64} (hsize : z.compressedSize?.isSome → z.size?.isSome)
    (hcompressed : z.offset?.isSome → z.compressedSize?.isSome) :
    ofCentral z.centralData = .ok { z with rawCentral? := some z.centralData } := by
  have hlength := z.length_centralData
  have hread := z.ofFlags_centralData
  obtain ⟨⟨hfirst, hsecond, hthird⟩, hlast, hrest⟩ := flags_of_compact z.size?.isSome
    z.compressedSize?.isSome z.offset?.isSome z.disk?.isSome hsize hcompressed
  have hbound := fun b : Bool => b.toNat_le
  have hwords : min (z.centralData.length / 8) 3 = z.size?.isSome.toNat +
      z.compressedSize?.isSome.toNat + z.offset?.isSome.toNat := by
    have h₁ := hbound z.size?.isSome
    have h₂ := hbound z.compressedSize?.isSome
    have h₃ := hbound z.offset?.isSome
    have h₄ := hbound z.disk?.isSome
    omega
  have hlater : z.centralData.length - 8 * (z.size?.isSome.toNat +
      z.compressedSize?.isSome.toNat + z.offset?.isSome.toNat) = 4 * z.disk?.isSome.toNat := by
    rw [hlength, Nat.add_sub_cancel_left]
  simp only [ofCentral, hwords, hlater, hfirst, hsecond, hthird, hlast, hrest, if_true, hread]

/-- From its central payload a record is first read compacted. -/
theorem ofCentral_centralData (z : Zip64) :
    ofCentral z.centralData = .ok { z.compacted with rawCentral? := some z.centralData } := by
  rw [← centralData_compacted z]
  obtain ⟨size?, compressedSize?, offset?, disk?, raw?⟩ := z
  refine ofCentral_of_compact ?_ ?_
  · cases size? <;> cases compressedSize? <;> cases offset? <;> simp [compacted]
  · cases size? <;> cases compressedSize? <;> cases offset? <;> simp [compacted]

/-! ### What is read is written -/

/-- The bytes of the value at a position are those that stand there. -/
theorem bytes64_wordAt {payload : Bytes} {position : ℕ} (h : position + 8 ≤ payload.length) :
    bytes64 (wordAt payload position) = (payload.drop position).take 8 := by
  have hlength : ((payload.drop position).take 8).length = 8 := by
    rw [List.length_take, List.length_drop]
    omega
  rw [wordAt, Bytes.bytes64_ofNat, Bytes.toLE_ofLE_of_length hlength]

private theorem bytes32_diskAt {payload : Bytes} {position : ℕ}
    (h : position + 4 ≤ payload.length) :
    bytes32 (diskAt payload position) = (payload.drop position).take 4 := by
  have hlength : ((payload.drop position).take 4).length = 4 := by
    rw [List.length_take, List.length_drop]
    omega
  rw [diskAt, Bytes.bytes32_ofNat, Bytes.toLE_ofLE_of_length hlength]

private theorem word64_wordAt {payload : Bytes} (position : ℕ) (present : Bool)
    (h : position + 8 * present.toNat ≤ payload.length) :
    word64 (if present then some (wordAt payload position) else none) =
      (payload.drop position).take (8 * present.toNat) := by
  cases present with
  | false => rfl
  | true => exact bytes64_wordAt h

private theorem word32_diskAt {payload : Bytes} (position : ℕ) (present : Bool)
    (h : position + 4 * present.toNat ≤ payload.length) :
    word32 (if present then some (diskAt payload position) else none) =
      (payload.drop position).take (4 * present.toNat) := by
  cases present with
  | false => rfl
  | true => exact bytes32_diskAt h

/-- Values that fill a payload are written as it. -/
theorem centralData_ofFlags {payload : Bytes} {hasSize hasCompressedSize hasOffset hasDisk : Bool}
    (h : payload.length = 8 * hasSize.toNat + 8 * hasCompressedSize.toNat + 8 * hasOffset.toNat +
      4 * hasDisk.toNat) :
    (ofFlags payload hasSize hasCompressedSize hasOffset hasDisk).centralData = payload := by
  have hwidth : ∀ present : Bool, (if present = true then 8 else 0) = 8 * present.toNat := by
    decide
  -- each value is cut out behind those before it
  have hsize := @word64_wordAt payload 0 hasSize (by omega)
  have hcompressed := @word64_wordAt payload (8 * hasSize.toNat) hasCompressedSize (by omega)
  have hoffset := @word64_wordAt payload (8 * hasSize.toNat + 8 * hasCompressedSize.toNat)
    hasOffset (by omega)
  have hdisk := @word32_diskAt payload
    (8 * hasSize.toNat + 8 * hasCompressedSize.toNat + 8 * hasOffset.toNat) hasDisk (by omega)
  rw [List.drop_zero] at hsize
  simp only [centralData, ofFlags, hwidth, hsize, hcompressed, hoffset, hdisk, ← List.take_add,
    ← h, List.take_length]

/-- A record without gaps has the same payload in both headers. -/
theorem localData_ofFlags (payload : Bytes) : ∀ hasOffset hasDisk : Bool,
    (hasDisk → hasOffset) → (ofFlags payload true true hasOffset hasDisk).localData =
      (ofFlags payload true true hasOffset hasDisk).centralData
  | false, false, _ => rfl
  | false, true, h => absurd (h rfl) Bool.false_ne_true
  | true, false, _ => rfl
  | true, true, _ => rfl

/-- A local payload that is read is written again. -/
theorem localData_of_ofLocal {payload : Bytes} {z : Zip64} (h : ofLocal payload = .ok z) :
    z.localData = payload := by
  rw [ofLocal] at h
  split at h
  case h_1 hlength =>
    obtain rfl := Except.ok.inj h
    exact (List.length_eq_zero_iff.1 hlength).symm
  case h_2 hlength =>
    obtain rfl := Except.ok.inj h
    exact (localData_ofFlags payload false false id).trans (centralData_ofFlags hlength)
  case h_3 hlength =>
    obtain rfl := Except.ok.inj h
    exact (localData_ofFlags payload true false fun _ => rfl).trans (centralData_ofFlags hlength)
  case h_4 hlength =>
    obtain rfl := Except.ok.inj h
    exact (localData_ofFlags payload true true id).trans (centralData_ofFlags hlength)
  case h_5 => cases h

/-- A central payload that is read is written again. -/
theorem centralData_of_ofCentral {payload : Bytes} {z : Zip64} (h : ofCentral payload = .ok z) :
    z.centralData = payload := by
  simp only [ofCentral] at h
  split at h
  case isTrue hrest =>
    obtain rfl := Except.ok.inj h
    refine centralData_ofFlags ?_
    -- there are as many values as words, and the disk number is what is left
    have hcount : ∀ words ≤ 3, 8 * (decide (0 < words)).toNat + 8 * (decide (1 < words)).toNat +
        8 * (decide (2 < words)).toNat = 8 * words := by decide
    have hdisk : ∀ rest : ℕ, rest = 0 ∨ rest = 4 → 4 * (decide (rest = 4)).toNat = rest := by
      rintro rest (rfl | rfl) <;> rfl
    rw [hcount _ (Nat.min_le_right _ 3), hdisk _ hrest]
    omega
  case isFalse => cases h

/-! ### The local payload after a central one was read -/

/-- The local payload of the values of a central one: zeros stand for the sizes that it does not
have, and before a disk number for an offset that it does not have. -/
def localForm (central : Bytes) : Bytes :=
  let words := central.take (8 * (central.length / 8))
  let disk := central.drop (8 * (central.length / 8))
  let wanted := if central.isEmpty then 0 else if disk.isEmpty then 16 else 24
  words ++ List.replicate (wanted - words.length) 0 ++ disk

theorem bytes64_zero : bytes64 0 = List.replicate 8 0 := rfl

private theorem localForm_append {words disk : Bytes} {n : ℕ} (hwords : words.length = 8 * n)
    (hdisk : disk.length < 8) :
    localForm (words ++ disk) = words ++
      List.replicate ((if (words ++ disk).isEmpty then 0 else if disk.isEmpty then 16 else 24) -
        8 * n) 0 ++ disk := by
  have hcut : 8 * ((words ++ disk).length / 8) = words.length := by
    rw [List.length_append]
    omega
  simp only [localForm, hcut, List.take_left' rfl, List.drop_left' rfl]
  rw [hwords]

/-- In a payload without gaps only the values behind the last are missing. -/
theorem localForm_of_compact {z : Zip64} (hsize : z.compressedSize?.isSome → z.size?.isSome)
    (hcompressed : z.offset?.isSome → z.compressedSize?.isSome) :
    localForm z.centralData = z.localData := by
  obtain ⟨size?, compressedSize?, offset?, disk?, raw?⟩ := z
  have hwords : (word64 size? ++ word64 compressedSize? ++ word64 offset?).length =
      8 * (size?.isSome.toNat + compressedSize?.isSome.toNat + offset?.isSome.toNat) := by
    simp only [List.length_append, length_word64]
    omega
  have hdisk : (word32 disk?).length < 8 := by
    have hbound := disk?.isSome.toNat_le
    rw [length_word32]
    omega
  have hempty : ∀ n, (bytes64 n).isEmpty = false := fun n => rfl
  have hempty32 : ∀ n, (bytes32 n).isEmpty = false := fun n => rfl
  refine (localForm_append hwords hdisk).trans ?_
  cases disk? <;> rcases size? with _ | size <;> rcases compressedSize? with _ | compressed <;>
    rcases offset? with _ | offset <;>
    simp_all [localData, isEmpty, word64, word32, bytes64_zero]

/-- A central payload is read without gaps. -/
theorem isSome_of_ofCentral {payload : Bytes} {z : Zip64} (h : ofCentral payload = .ok z) :
    (z.compressedSize?.isSome → z.size?.isSome) ∧
      (z.offset?.isSome → z.compressedSize?.isSome) := by
  simp only [ofCentral] at h
  split at h
  case isTrue hrest =>
    obtain rfl := Except.ok.inj h
    constructor
    · intro hcompressed
      have hwords : 1 < min (payload.length / 8) 3 := by simpa [ofFlags] using hcompressed
      simp [ofFlags, Nat.zero_lt_of_lt hwords]
    · intro hoffset
      have hwords : 2 < min (payload.length / 8) 3 := by simpa [ofFlags] using hoffset
      simp [ofFlags, Nat.lt_of_succ_lt hwords]
  case isFalse => cases h

/-- The local payload after a central one was read has its values. -/
theorem localData_of_ofCentral {payload : Bytes} {z : Zip64} (h : ofCentral payload = .ok z) :
    z.localData = localForm payload := by
  obtain ⟨hsize, hcompressed⟩ := isSome_of_ofCentral h
  rw [← localForm_of_compact hsize hcompressed, centralData_of_ofCentral h]

theorem length_centralData_le (z : Zip64) : z.centralData.length ≤ 28 := by
  have hsize := z.size?.isSome.toNat_le
  have hcompressed := z.compressedSize?.isSome.toNat_le
  have hoffset := z.offset?.isSome.toNat_le
  have hdisk := z.disk?.isSome.toNat_le
  rw [length_centralData]
  omega

theorem length_localData_le (z : Zip64) : z.localData.length ≤ 28 := by
  rw [localData_eq_centralData_completed]
  exact z.completed.length_centralData_le

end ZipArchive.Extra.Zip64
