import ZipArchive.Proofs.Archive.HeaderFields
import ZipArchive.Proofs.Extra.Zip64

/-!
# Reading an archive

`Extent.entries?` is what a reader makes of an archive of which it knows nothing but where its bytes
start and that they end with the archive. It takes the last bytes as the end record, follows the
locator and the Zip64 end record if a field of the end record is at its marker, takes as many
central headers as announced from the announced position on, and looks up the local header and the
data of each. A size or a position whose field is at its marker is taken from the Zip64 record of
the central header, where such values stand in order: `CentralHeader.resolve_fields`.
-/

namespace ZipArchive

open Extra (Zip64)

/-! ### Sizes and positions -/

/-- The value of a four-byte field. If the field is at its marker the value is taken from the front
of a Zip64 record instead. -/
def Take.wide (field : UInt32) : Take UInt64 :=
  if field.toNat = marker32 then word64 else pure field.toUInt64

/-- The sizes of the data of an entry, and the position of its local header. -/
structure Location where
  /-- The size of the data. -/
  size : UInt64
  /-- The size of the compressed data. -/
  compressedSize : UInt64
  /-- The position of the local header. -/
  offset : UInt64
deriving DecidableEq, Repr

/-- The sizes and the position in a central header. Those whose fields are at the marker stand in
the first Zip64 record. -/
def CentralFields.resolve (f : CentralFields) : Option Location :=
  let values : Take Location := do
    let size ← Take.wide f.size
    let compressedSize ← Take.wide f.compressedSize
    let offset ← Take.wide f.offset
    return { size, compressedSize, offset }
  Prod.fst <$> values.run ((firstRecord? Zip64.recordId f.extra).getD [])

private theorem Take.takes_wide (n : Nat) :
    (Take.wide (saturate32 n)).Takes (Zip64.word64 (overflow32? n)) (UInt64.ofNat n) := by
  by_cases hn : marker32 ≤ n
  · rw [wide, toNat_saturate32, Nat.min_eq_right hn, if_pos rfl, overflow32?, if_pos hn]
    exact .word64 _
  · have hlt : n < marker32 := Nat.lt_of_not_le hn
    have hfield : (saturate32 n).toUInt64 = UInt64.ofNat n := by
      rw [saturate32, Nat.min_eq_left (Nat.le_of_lt hlt), toUInt64_ofNat_of_lt_marker32 hlt]
    rw [wide, toNat_saturate32, Nat.min_eq_left (Nat.le_of_lt hlt), if_neg (Nat.ne_of_lt hlt),
      overflow32?, if_neg hn, hfield]
    exact .pure _

namespace CentralHeader

/-- The sizes and the position of a header that is written. -/
def location (h : CentralHeader) : Location where
  size := .ofNat h.digest.size
  compressedSize := .ofNat h.digest.compressedSize
  offset := .ofNat h.offset

theorem length_centralData_zip64 (h : CentralHeader) : h.zip64.centralData.length ≤ 65535 := by
  have hsize := h.zip64.size?.isSome.toNat_le
  have hcompressed := h.zip64.compressedSize?.isSome.toNat_le
  have hoffset := h.zip64.offset?.isSome.toNat_le
  have hdisk := h.zip64.disk?.isSome.toNat_le
  rw [Zip64.length_centralData]
  omega

private theorem centralData_of_not_needsZip64 {h : CentralHeader} (hneeds : h.needsZip64 = false) :
    h.zip64.centralData = [] := by
  simp only [needsZip64, Bool.not_eq_false', Zip64.isEmpty, Bool.and_eq_true,
    Option.isNone_iff_eq_none] at hneeds
  obtain ⟨⟨⟨hsize, hcompressed⟩, hoffset⟩, hdisk⟩ := hneeds
  rw [Zip64.centralData, hsize, hcompressed, hoffset, hdisk]
  rfl

/-- The first Zip64 record of a header starts with the values that do not fit. -/
theorem exists_firstRecord?_allExtra (h : CentralHeader) :
    ∃ rest, (firstRecord? Zip64.recordId h.allExtra).getD [] = h.zip64.centralData ++ rest := by
  cases hneeds : h.needsZip64 with
  | true =>
    refine ⟨[], ?_⟩
    rw [allExtra, hneeds, if_pos rfl, firstRecord?_append h.extra h.length_centralData_zip64,
      if_pos rfl, List.append_nil, Option.getD_some]
  | false => exact ⟨_, by rw [centralData_of_not_needsZip64 hneeds, List.nil_append]⟩

/-- What does not fit its field is found in the Zip64 record. -/
theorem resolve_fields (h : CentralHeader) : h.fields.resolve = some h.location := by
  obtain ⟨rest, hrest⟩ := h.exists_firstRecord?_allExtra
  have hdata : h.zip64.centralData = Zip64.word64 (overflow32? h.digest.size) ++
      (Zip64.word64 (overflow32? h.digest.compressedSize) ++
        Zip64.word64 (overflow32? h.offset)) := by
    simp [Zip64.centralData, zip64, Zip64.word32]
  rw [hdata] at hrest
  rw [CentralFields.resolve]
  simp only [fields, hrest]
  rw [Take.Takes.bind (Take.takes_wide _)
    (.bind (Take.takes_wide _) (Take.takes_wide h.offset).bind_pure) rest]
  rfl

end CentralHeader

/-! ### Reading from positions -/

/-- Bytes that stand from a position on. -/
structure Extent where
  /-- The position of the first byte. -/
  start : Nat
  /-- The bytes. -/
  bytes : Bytes

namespace Extent

variable {α : Type}

/-- The position behind the last byte. -/
def stop (x : Extent) : Nat := x.start + x.bytes.length

/-- Takes a value at a position. -/
def read? (x : Extent) (position : Nat) (t : Take α) : Option α := do
  guard (x.start ≤ position)
  Prod.fst <$> t.run (x.bytes.drop (position - x.start))

theorem read?_eq_some {x : Extent} {position : Nat} {t : Take α} {bs : Bytes} {a : α}
    (front back : Bytes) (hbytes : x.bytes = front ++ (bs ++ back))
    (hposition : position = x.start + front.length) (h : t.Takes bs a) :
    x.read? position t = some a := by
  subst hposition
  have hdrop : x.bytes.drop (x.start + front.length - x.start) = bs ++ back := by
    rw [Nat.add_sub_cancel_left, hbytes, List.drop_left]
  simp only [read?, hdrop, h back, Nat.le_add_right, guard, if_true]
  rfl

/-- What the end records say of the central directory. -/
def directory? (x : Extent) : Option EndRecord := do
  let record ← x.read? (x.stop - EndRecord.plainSize) Take.endRecord
  if record.isSaturated then
    let position ← x.read? (x.stop - EndRecord.plainSize - EndRecord.locatorSize) Take.locator
    x.read? position Take.zip64EndRecord
  else return record

/-- The end records of a writer lead to the numbers that they are about. -/
theorem directory?_eq_some {x : Extent} {r : EndRecord} {zip64 : Bool} (front : Bytes)
    (hbytes : x.bytes = front ++ r.toBytes zip64) (hneeds : r.needsZip64 = true → zip64 = true)
    (hoffset : r.directoryOffset + r.directorySize = x.start + front.length)
    (hentries : r.entries < UInt64.size) (hstop : x.stop < UInt64.size) :
    x.directory? = some r := by
  -- in either form the plain record is at the very end
  have hplain : x.read? (x.stop - EndRecord.plainSize) Take.endRecord = some r.fields := by
    obtain ⟨middle, hmiddle⟩ : ∃ middle, r.toBytes zip64 = middle ++ (r.plainBytes ++ []) := by
      rw [List.append_nil]
      cases zip64
      · exact ⟨[], rfl⟩
      · exact ⟨_, rfl⟩
    rw [hmiddle, ← List.append_assoc] at hbytes
    refine read?_eq_some _ [] hbytes ?_ r.takes_plain
    rw [stop, hbytes, List.append_nil, List.length_append, EndRecord.length_plainBytes]
    omega
  simp only [directory?, hplain, Option.bind_eq_bind, Option.bind_some,
    EndRecord.isSaturated_fields]
  cases hr : r.needsZip64 with
  | false =>
    rw [if_neg Bool.false_ne_true, EndRecord.fields_of_not_needsZip64 hr]
    rfl
  | true =>
    -- the locator stands before it, and leads to the Zip64 record
    rw [hneeds hr, EndRecord.toBytes, if_pos rfl, List.append_assoc] at hbytes
    have hend : x.stop = x.start + (front.length + (r.zip64Bytes.length +
        (EndRecord.locatorSize + EndRecord.plainSize))) := by
      simp only [stop, hbytes, List.length_append, EndRecord.length_plainBytes,
        EndRecord.length_locatorBytes]
    have hfits : r.directoryOffset + r.directorySize < UInt64.size :=
      Nat.lt_of_le_of_lt (by omega) hstop
    have hlocator : x.read? (x.stop - EndRecord.plainSize - EndRecord.locatorSize) Take.locator =
        some (r.directoryOffset + r.directorySize) := by
      refine read?_eq_some (front ++ r.zip64Bytes) r.plainBytes ?_ ?_
        (EndRecord.takes_locator hfits)
      · rw [hbytes, List.append_assoc]
      · rw [hend, List.length_append]
        omega
    have hzip64 : x.read? (r.directoryOffset + r.directorySize) Take.zip64EndRecord = some r :=
      read?_eq_some front _ hbytes hoffset (EndRecord.takes_zip64 hentries hfits)
    simp only [if_true, hlocator, hzip64, Option.bind_some]

/-- An entry as it is found in an archive. -/
structure Found where
  /-- The fields of the central header. -/
  fields : CentralFields
  /-- The sizes and the position that the central header gives. -/
  location : Location
  /-- The fields of the local header at that position. -/
  head : LocalFields
  /-- The bytes behind the local header, as many as the central header says. -/
  data : Bytes

/-- Takes a local header and as many bytes behind it as said. -/
def takeEntry (size : Nat) : Take (LocalFields × Bytes) := do
  let head ← Take.localFields
  let data ← Take.bytes size
  return (head, data)

/-- Finds the entry of a central header. -/
def find? (x : Extent) (f : CentralFields) : Option Found := do
  let location ← f.resolve
  let (head, data) ← x.read? location.offset.toNat (takeEntry location.compressedSize.toNat)
  return { fields := f, location, head, data }

/-- All entries of an archive, in the order of the central directory. -/
def entries? (x : Extent) : Option (List Found) := do
  let directory ← x.directory?
  let fields ← x.read? directory.directoryOffset
    (Take.times Take.centralFields directory.entries)
  fields.mapM x.find?

end Extent

end ZipArchive
