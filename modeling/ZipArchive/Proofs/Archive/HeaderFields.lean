import ZipArchive.Archive.EndRecord
import ZipArchive.Proofs.Archive.FilledHeader
import ZipArchive.Proofs.Archive.Take

/-!
# The fields of headers, as a reader takes them

For each header of an archive there is a step that takes its fields, as the plain numbers that stand
there. What the steps take for the headers of a writer is shown here: `LocalHeader.takes_fields`,
`CentralHeader.takes_fields`, and `EndRecord.takes_plain` with its Zip64 relatives. A number that
its field does not hold is read as the marker of the field, and for the end record this happens
exactly when the Zip64 form is needed, `EndRecord.isSaturated_fields`.
-/

namespace ZipArchive

open Take (bytes expect number word16 word32 word64)

/-! ### Local headers -/

/-- The fields of a local header. -/
structure LocalFields where
  /-- The version that a reader needs. -/
  versionNeeded : UInt16
  /-- The flag word. -/
  flags : UInt16
  /-- The number of the compression method. -/
  method : UInt16
  /-- The words for the time of modification. -/
  modified : DosTime
  /-- The checksum of the data. -/
  checksum : UInt32
  /-- The field for the size of the compressed data. -/
  compressedSize : UInt32
  /-- The field for the size of the data. -/
  size : UInt32
  /-- The bytes of the name. -/
  name : Bytes
  /-- The extra field stream. -/
  extra : Bytes
deriving DecidableEq, Repr

/-- Takes a local header. -/
def Take.localFields : Take LocalFields := do
  expect LocalHeader.signature
  let versionNeeded ← word16
  let flags ← word16
  let method ← word16
  let time ← word16
  let date ← word16
  let checksum ← word32
  let compressedSize ← word32
  let size ← word32
  let nameLength ← number 2
  let extraLength ← number 2
  let name ← bytes nameLength
  let extra ← bytes extraLength
  return {
    versionNeeded, flags, method, modified := ⟨time, date⟩, checksum, compressedSize, size, name,
    extra }

namespace LocalHeader

/-- The fields of a header that is written. -/
def fields (h : LocalHeader) : LocalFields where
  versionNeeded := h.versionNeeded
  flags := h.flags.toWord
  method := h.method.id
  modified := h.modified
  checksum := h.checksum
  compressedSize := h.compressedSize
  size := h.size
  name := h.name
  extra := h.extra

theorem takes_fields {h : LocalHeader} (hname : h.name.length ≤ 65535)
    (hextra : h.extra.length ≤ 65535) : Take.localFields.Takes h.toBytes h.fields := by
  simp only [toBytes, Flags.toBytes, List.append_assoc]
  refine .bind (.expect _) (.bind (.word16 _) (.bind (.word16 _) (.bind (.word16 _) ?_)))
  refine .bind (.word16 _) (.bind (.word16 _) (.bind (.word32 _) (.bind (.word32 _) ?_)))
  refine .bind (.word32 _) (.bind (.number 2 _ (by omega)) (.bind (.number 2 _ (by omega)) ?_))
  exact .bind (.bytes rfl) (Take.Takes.bytes rfl).bind_pure

end LocalHeader

/-! ### Central headers -/

/-- The fields of a central header. -/
structure CentralFields where
  /-- The version and the system that the entry is made by. -/
  madeBy : UInt16
  /-- The version that a reader needs. -/
  versionNeeded : UInt16
  /-- The flag word. -/
  flags : UInt16
  /-- The number of the compression method. -/
  method : UInt16
  /-- The words for the time of modification. -/
  modified : DosTime
  /-- The checksum of the data. -/
  checksum : UInt32
  /-- The field for the size of the compressed data. -/
  compressedSize : UInt32
  /-- The field for the size of the data. -/
  size : UInt32
  /-- The external attributes. -/
  externalAttributes : UInt32
  /-- The field for the position of the local header. -/
  offset : UInt32
  /-- The bytes of the name. -/
  name : Bytes
  /-- The extra field stream. -/
  extra : Bytes
  /-- The bytes of the comment. -/
  comment : Bytes
deriving DecidableEq, Repr

/-- Takes a central header. -/
def Take.centralFields : Take CentralFields := do
  expect CentralHeader.signature
  let madeBy ← word16
  let versionNeeded ← word16
  let flags ← word16
  let method ← word16
  let time ← word16
  let date ← word16
  let checksum ← word32
  let compressedSize ← word32
  let size ← word32
  let nameLength ← number 2
  let extraLength ← number 2
  let commentLength ← number 2
  let _disk ← number 2
  let _internalAttributes ← number 2
  let externalAttributes ← word32
  let offset ← word32
  let name ← bytes nameLength
  let extra ← bytes extraLength
  let comment ← bytes commentLength
  return {
    madeBy, versionNeeded, flags, method, modified := ⟨time, date⟩, checksum, compressedSize, size,
    externalAttributes, offset, name, extra, comment }

namespace CentralHeader

/-- The fields of a header that is written. -/
def fields (h : CentralHeader) : CentralFields where
  madeBy := madeBy
  versionNeeded := if h.needsZip64 then zip64Version else h.versionNeeded
  flags := h.flags.toWord
  method := h.method.id
  modified := h.modified
  checksum := h.digest.checksum
  compressedSize := saturate32 h.digest.compressedSize
  size := saturate32 h.digest.size
  externalAttributes := h.externalAttributes
  offset := saturate32 h.offset
  name := h.name
  extra := h.allExtra
  comment := h.comment

private theorem lengths_le_of_toBytes {h : CentralHeader} {bs : Bytes} (hbs : h.toBytes = .ok bs) :
    h.allExtra.length ≤ 65535 ∧ h.name.length ≤ 65535 ∧ h.comment.length ≤ 65535 := by
  simp only [toBytes, bind_eq_ok_iff] at hbs
  obtain ⟨⟨⟩, hextra, ⟨⟩, hname, ⟨⟩, hcomment, -⟩ := hbs
  exact ⟨checkLength_eq_ok_iff.1 hextra, checkLength_eq_ok_iff.1 hname,
    checkLength_eq_ok_iff.1 hcomment⟩

theorem takes_fields {h : CentralHeader} {bs : Bytes} (hbs : h.toBytes = .ok bs) :
    Take.centralFields.Takes bs h.fields := by
  obtain ⟨hextra, hname, hcomment⟩ := lengths_le_of_toBytes hbs
  simp only [toBytes, bind_eq_ok_iff] at hbs
  obtain ⟨⟨⟩, -, ⟨⟩, -, ⟨⟩, -, hbs⟩ := hbs
  obtain rfl := Except.ok.inj hbs
  simp only [Flags.toBytes, List.append_assoc]
  refine .bind (.expect _) (.bind (.word16 _) (.bind (.word16 _) (.bind (.word16 _) ?_)))
  refine .bind (.word16 _) (.bind (.word16 _) (.bind (.word16 _) (.bind (.word32 _) ?_)))
  refine .bind (.word32 _) (.bind (.word32 _) (.bind (.number 2 _ (by omega)) ?_))
  refine .bind (.number 2 _ (by omega)) (.bind (.number 2 _ (by omega)) ?_)
  refine .bind (.number 2 _ (by omega)) (.bind (.number 2 _ (by omega)) ?_)
  refine .bind (.word32 _) (.bind (.word32 _) (.bind (.bytes rfl) (.bind (.bytes rfl) ?_)))
  exact (Take.Takes.bytes rfl).bind_pure

end CentralHeader

/-! ### End records -/

private theorem toNat_saturate16 (n : Nat) : (saturate16 n).toNat = min n marker16 := by
  rw [saturate16, UInt16.toNat_ofNat']
  exact Nat.mod_eq_of_lt (Nat.lt_of_le_of_lt (Nat.min_le_right n marker16) (by decide))

theorem toNat_saturate32 (n : Nat) : (saturate32 n).toNat = min n marker32 := by
  rw [saturate32, UInt32.toNat_ofNat']
  exact Nat.mod_eq_of_lt (Nat.lt_of_le_of_lt (Nat.min_le_right n marker32) (by decide))

theorem toNat_ofNat_of_lt_marker32 {n : Nat} (h : n < marker32) : (UInt32.ofNat n).toNat = n :=
  UInt32.toNat_ofNat_of_lt' (Nat.lt_trans h (by decide))

theorem toUInt64_ofNat_of_lt_marker32 {n : Nat} (h : n < marker32) :
    (UInt32.ofNat n).toUInt64 = UInt64.ofNat n := by
  refine UInt64.toNat_inj.1 ?_
  rw [UInt32.toNat_toUInt64, toNat_ofNat_of_lt_marker32 h,
    UInt64.toNat_ofNat_of_lt' (Nat.lt_trans h (by decide))]

/-- Takes an end record. -/
def Take.endRecord : Take EndRecord := do
  expect EndRecord.signature
  let _disk ← number 2
  let _directoryDisk ← number 2
  let _entriesHere ← word16
  let entries ← word16
  let directorySize ← word32
  let directoryOffset ← word32
  let _commentLength ← number 2
  return ⟨entries.toNat, directorySize.toNat, directoryOffset.toNat⟩

/-- Takes a locator, for the position of the Zip64 end record. -/
def Take.locator : Take Nat := do
  expect EndRecord.locatorSignature
  let _disk ← number 4
  let position ← number 8
  let _disks ← number 4
  return position

/-- Takes a Zip64 end record. -/
def Take.zip64EndRecord : Take EndRecord := do
  expect EndRecord.zip64Signature
  let _size ← number 8
  let _madeBy ← word16
  let _versionNeeded ← word16
  let _disk ← number 4
  let _directoryDisk ← number 4
  let _entriesHere ← number 8
  let entries ← number 8
  let directorySize ← number 8
  let directoryOffset ← number 8
  return ⟨entries, directorySize, directoryOffset⟩

namespace EndRecord

/-- The number of bytes of an end record. -/
def plainSize : Nat := 22

/-- The number of bytes of a locator. -/
def locatorSize : Nat := 20

@[simp] theorem length_plainBytes (r : EndRecord) : r.plainBytes.length = plainSize := by
  simp [plainBytes, plainSize]

@[simp] theorem length_locatorBytes (r : EndRecord) : r.locatorBytes.length = locatorSize := by
  simp [locatorBytes, locatorSize]

/-- Whether any field of an end record is at its marker. -/
def isSaturated (r : EndRecord) : Bool :=
  r.entries = marker16 || r.directorySize = marker32 || r.directoryOffset = marker32

/-- The numbers that the fields of an end record hold. -/
def fields (r : EndRecord) : EndRecord where
  entries := min r.entries marker16
  directorySize := min r.directorySize marker32
  directoryOffset := min r.directoryOffset marker32

/-- The fields are at a marker exactly when a number does not fit. -/
theorem isSaturated_fields (r : EndRecord) : r.fields.isSaturated = r.needsZip64 := by
  have hmin : ∀ n m : Nat, min n m = m ↔ m ≤ n := fun n m => by omega
  simp only [isSaturated, fields, needsZip64, hmin]

theorem fields_of_not_needsZip64 {r : EndRecord} (h : r.needsZip64 = false) : r.fields = r := by
  simp only [needsZip64, Bool.or_eq_false_iff, decide_eq_false_iff_not] at h
  obtain ⟨⟨hentries, hsize⟩, hoffset⟩ := h
  simp only [fields, Nat.min_eq_left (Nat.le_of_not_le hentries),
    Nat.min_eq_left (Nat.le_of_not_le hsize), Nat.min_eq_left (Nat.le_of_not_le hoffset)]

theorem takes_plain (r : EndRecord) : Take.endRecord.Takes r.plainBytes r.fields := by
  have hfields : r.fields = ⟨(saturate16 r.entries).toNat, (saturate32 r.directorySize).toNat,
      (saturate32 r.directoryOffset).toNat⟩ := by
    simp only [fields, toNat_saturate16, toNat_saturate32]
  rw [hfields]
  simp only [plainBytes, List.append_assoc]
  refine .bind (.expect _) (.bind (.number 2 _ (by decide)) (.bind (.number 2 _ (by decide)) ?_))
  refine .bind (.word16 _) (.bind (.word16 _) (.bind (.word32 _) (.bind (.word32 _) ?_)))
  exact (Take.Takes.number 2 0 (by decide)).bind_pure

theorem takes_locator {r : EndRecord} (h : r.directoryOffset + r.directorySize < UInt64.size) :
    Take.locator.Takes r.locatorBytes (r.directoryOffset + r.directorySize) := by
  simp only [locatorBytes, List.append_assoc]
  refine .bind (.expect _) (.bind (.number 4 _ (by decide)) (.bind (.number 8 _ h) ?_))
  exact (Take.Takes.number 4 1 (by decide)).bind_pure

theorem takes_zip64 {r : EndRecord} (hentries : r.entries < UInt64.size)
    (h : r.directoryOffset + r.directorySize < UInt64.size) :
    Take.zip64EndRecord.Takes r.zip64Bytes r := by
  simp only [zip64Bytes, List.append_assoc]
  refine .bind (.expect _) (.bind (.number 8 _ (by decide)) (.bind (.word16 _) ?_))
  refine .bind (.word16 _) (.bind (.number 4 _ (by decide)) (.bind (.number 4 _ (by decide)) ?_))
  refine .bind (.number 8 _ hentries) (.bind (.number 8 _ hentries) ?_)
  refine .bind (.number 8 _ (Nat.lt_of_le_of_lt (Nat.le_add_left _ _) h)) ?_
  exact (Take.Takes.number 8 _ (Nat.lt_of_le_of_lt (Nat.le_add_right _ _) h)).bind_pure

end EndRecord

/-! ### Records of extra fields -/

/-- The payload of the first record with an id in an extra field stream. -/
def firstRecord? (id : UInt16) : Bytes → Option Bytes
  | i₀ :: i₁ :: l₀ :: l₁ :: rest =>
    let length := Bytes.ofLE [l₀, l₁]
    if length ≤ rest.length then
      if Bytes.ofLE [i₀, i₁] = id.toNat then some (rest.take length)
      else firstRecord? id (rest.drop length)
    else none
  | _ => none
termination_by stream => stream.length
decreasing_by simp only [List.length_drop, List.length_cons]; omega

theorem firstRecord?_append {id id' : UInt16} {payload : Bytes} (rest : Bytes)
    (h : payload.length ≤ 65535) :
    firstRecord? id (bytes16 id' ++ Bytes.toLE 2 payload.length ++ payload ++ rest) =
      if id' = id then some payload else firstRecord? id rest := by
  obtain ⟨i₀, i₁, l₀, l₁, hheader, hid, hlength⟩ := Extra.exists_recordHeader_eq id' h
  simp only [hheader, List.cons_append, List.nil_append, firstRecord?, hid, hlength,
    List.length_append, Nat.le_add_right, if_true, List.take_left, List.drop_left,
    UInt16.toNat_inj]

end ZipArchive
