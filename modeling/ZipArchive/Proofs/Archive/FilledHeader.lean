import ZipArchive.Archive.Writer
import ZipArchive.Proofs.Extra.FieldList
import ZipArchive.Proofs.LittleEndian
import ZipArchive.Proofs.Overwrite

/-!
# Local headers with their checksum and sizes

A local header is written before the checksum and the sizes of its entry are known, and patched
later. `Entry.filledHeader` is the header that would have been written if they had been known. It is
as long as the one written first, and differs from it in twelve bytes of fixed place, or in four of
these and in the sixteen bytes of a Zip64 record: `filledHeader_of_not_reserved` and
`exists_filledHeader_of_reserved`. These bytes are its `Filling`, and the patches of an entry enter
them: `exists_filling_of_patches`.
-/

namespace ZipArchive

open Extra (FieldList Record Zip64)

theorem checkLength_eq_ok_iff {what : String} {bs : Bytes} :
    checkLength what bs = .ok () ↔ bs.length ≤ 65535 := by
  unfold checkLength
  split
  case isTrue h => simp [h]
  case isFalse h => simp [h]

theorem checkLength_eq_error_iff {what : String} {bs : Bytes} {e : Fault} :
    checkLength what bs = .error e ↔
      65535 < bs.length ∧ e = .invalidHeader s!"{what} of {bs.length} bytes exceeds 65535" := by
  unfold checkLength
  split
  case isTrue h => simp [Nat.not_lt.2 h]
  case isFalse h => simp [Nat.lt_of_not_le h, eq_comm]

/-! ### The bytes of a header -/

namespace LocalHeader

/-- The bytes before the checksum. -/
def front (h : LocalHeader) : Bytes :=
  bytes32 signature ++ bytes16 h.versionNeeded ++ h.flags.toBytes ++ bytes16 h.method.id ++
    bytes16 h.modified.time ++ bytes16 h.modified.date

/-- The checksum and the two sizes. -/
def sums (h : LocalHeader) : Bytes :=
  bytes32 h.checksum ++ bytes32 h.compressedSize ++ bytes32 h.size

/-- The lengths of name and extra fields. -/
def lengths (h : LocalHeader) : Bytes :=
  Bytes.toLE 2 h.name.length ++ Bytes.toLE 2 h.extra.length

@[simp] theorem length_front (h : LocalHeader) : h.front.length = checksumOffset := by
  simp [front, Flags.toBytes, checksumOffset]

@[simp] theorem length_sums (h : LocalHeader) : h.sums.length = 12 := by
  simp [sums]

@[simp] theorem length_lengths (h : LocalHeader) : h.lengths.length = 4 := by
  simp [lengths]

private theorem toBytes_eq (h : LocalHeader) :
    h.toBytes = h.front ++ h.sums ++ h.lengths ++ h.name ++ h.extra := by
  simp only [toBytes, front, sums, lengths, List.append_assoc]

theorem length_toBytes (h : LocalHeader) :
    h.toBytes.length = fixedSize + h.name.length + h.extra.length := by
  simp only [toBytes_eq, List.length_append, length_front, length_sums, length_lengths,
    checksumOffset, fixedSize]

/-- Checksum and sizes written over those of a header. -/
theorem overwrite_sums (h : LocalHeader) (checksum compressedSize size : UInt32) :
    h.toBytes.overwrite checksumOffset
        (bytes32 checksum ++ bytes32 compressedSize ++ bytes32 size) =
      .ok { h with checksum, compressedSize, size }.toBytes := by
  have hsplit : ∀ sums : Bytes, h.front ++ sums ++ (h.lengths ++ h.name ++ h.extra) =
      h.front ++ sums ++ h.lengths ++ h.name ++ h.extra := by
    simp only [List.append_assoc, implies_true]
  rw [toBytes_eq, ← hsplit, ← h.length_front, Bytes.overwrite_append _ _ (by simp), hsplit,
    toBytes_eq]
  rfl

/-- A checksum written over that of a header. -/
theorem overwrite_checksum (h : LocalHeader) (checksum : UInt32) :
    h.toBytes.overwrite checksumOffset (bytes32 checksum) =
      .ok { h with checksum }.toBytes := by
  have hsplit : ∀ g : LocalHeader, g.toBytes = g.front ++ bytes32 g.checksum ++
      (bytes32 g.compressedSize ++ bytes32 g.size ++ g.lengths ++ g.name ++ g.extra) := by
    intro g
    simp only [toBytes_eq, sums, List.append_assoc]
  rw [hsplit, ← h.length_front, Bytes.overwrite_append _ _ (by simp), hsplit]
  rfl

/-- Bytes written over some of the extra fields of a header. -/
theorem overwrite_extra (h : LocalHeader) {front old new back : Bytes}
    (hextra : h.extra = front ++ old ++ back) (hlength : new.length = old.length) :
    h.toBytes.overwrite (fixedSize + h.name.length + front.length) new =
      .ok { h with extra := front ++ new ++ back }.toBytes := by
  have hsplit : ∀ (g : LocalHeader) (bs : Bytes), g.extra = front ++ bs ++ back →
      g.toBytes = (g.front ++ g.sums ++ g.lengths ++ g.name ++ front) ++ bs ++ back := by
    intro g bs hg
    simp only [toBytes_eq, hg, List.append_assoc]
  have hfront : fixedSize + h.name.length + front.length =
      (h.front ++ h.sums ++ h.lengths ++ h.name ++ front).length := by
    simp only [List.length_append, length_front, length_sums, length_lengths, checksumOffset,
      fixedSize]
  have hlengths : ({ h with extra := front ++ new ++ back } : LocalHeader).lengths =
      h.lengths := by
    simp only [lengths, hextra, List.length_append, hlength]
  rw [hsplit h old hextra, hfront, Bytes.overwrite_append _ _ hlength, hsplit _ new rfl, hlengths]
  rfl

end LocalHeader

/-! ### Headers with and without what is known later -/

namespace Entry

variable {κ : Type} [Record κ]

/-- The entry with the Zip64 record of its local header filled with sizes, or without one. -/
def withSizes (e : Entry κ) (reserved : Bool) (size compressedSize : UInt64) : Entry κ :=
  if reserved then e.addExtra (.zip64 (.ofSizes size compressedSize))
  else e.removeExtra Zip64.recordId

/-- The local header of an entry, given the bytes of its extra fields, before checksum and sizes
are known. -/
def blankHeader (e : Entry κ) (name : Bytes) (reserved : Bool) (extra : Bytes) : LocalHeader where
  versionNeeded := if reserved then CentralHeader.zip64Version else e.method.versionNeeded
  flags := e.flags
  method := e.method
  modified := e.dosTime
  checksum := 0
  compressedSize := if reserved then saturate32 marker32 else 0
  size := if reserved then saturate32 marker32 else 0
  name := name
  extra := extra

private theorem localHeader_eq_ok_iff {e : Entry κ} {name : Bytes} {reserved : Bool}
    {h : LocalHeader} : e.localHeader name reserved = .ok h ↔
      ∃ extra, e.extraData .localHeader = .ok extra ∧ name.length ≤ 65535 ∧
        extra.length ≤ 65535 ∧ h = e.blankHeader name reserved extra := by
  simp only [localHeader, bind_eq_ok_iff, pure, Except.pure, Except.ok.injEq]
  constructor
  · rintro ⟨extra, hextra, ⟨⟩, hname, ⟨⟩, hlen, rfl⟩
    exact ⟨extra, hextra, checkLength_eq_ok_iff.1 hname, checkLength_eq_ok_iff.1 hlen, rfl⟩
  · rintro ⟨extra, hextra, hname, hlen, rfl⟩
    exact ⟨extra, hextra, ⟨⟩, checkLength_eq_ok_iff.2 hname, ⟨⟩, checkLength_eq_ok_iff.2 hlen, rfl⟩

/-- The local header of an entry when checksum and sizes are known. Sizes stand in the Zip64 record
if room is reserved for them there, and otherwise in the fields. -/
def filledHeader (e : Entry κ) (name : Bytes) (reserved : Bool) (d : Digest) :
    Except Fault LocalHeader := do
  let filled := e.withSizes reserved (.ofNat d.size) (.ofNat d.compressedSize)
  let header ← filled.localHeader name reserved
  return { header with
    checksum := d.checksum
    compressedSize := if reserved then header.compressedSize else .ofNat d.compressedSize
    size := if reserved then header.size else .ofNat d.size }

theorem filledHeader_eq_ok_iff {e : Entry κ} {name : Bytes} {reserved : Bool} {d : Digest}
    {h : LocalHeader} :
    e.filledHeader name reserved d = .ok h ↔
      ∃ extra, (e.withSizes reserved (.ofNat d.size) (.ofNat d.compressedSize)).extraData
          .localHeader = .ok extra ∧ name.length ≤ 65535 ∧ extra.length ≤ 65535 ∧
        h = { e.blankHeader name reserved extra with
          checksum := d.checksum
          compressedSize := if reserved then saturate32 marker32 else .ofNat d.compressedSize
          size := if reserved then saturate32 marker32 else .ofNat d.size } := by
  have hblank : ∀ extra,
      (e.withSizes reserved (.ofNat d.size) (.ofNat d.compressedSize)).blankHeader name reserved
        extra = e.blankHeader name reserved extra := by
    intro extra
    cases reserved <;> rfl
  simp only [filledHeader, bind_eq_ok_iff, localHeader_eq_ok_iff, hblank]
  constructor
  · rintro ⟨_, ⟨extra, hextra, hname, hlen, rfl⟩, heq⟩
    obtain rfl := Except.ok.inj heq
    refine ⟨extra, hextra, hname, hlen, ?_⟩
    cases reserved <;> rfl
  · rintro ⟨extra, hextra, hname, hlen, rfl⟩
    refine ⟨_, ⟨extra, hextra, hname, hlen, rfl⟩, ?_⟩
    cases reserved <;> rfl

/-- Without a Zip64 record a header is filled in its fields. -/
theorem filledHeader_of_not_reserved {e : Entry κ} {name : Bytes} {h : LocalHeader} (d : Digest)
    (hh : (e.reserveSizes false).localHeader name false = .ok h) :
    e.filledHeader name false d = .ok { h with
      checksum := d.checksum
      compressedSize := .ofNat d.compressedSize
      size := .ofNat d.size } := by
  rw [filledHeader]
  exact bind_eq_ok_iff.2 ⟨h, hh, rfl⟩

theorem data_ofSizes (size compressedSize : UInt64) :
    (Extra.Field.zip64 (.ofSizes size compressedSize) : Extra.Field κ).data .localHeader =
      bytes64 size ++ bytes64 compressedSize := by
  simp [Extra.Field.data, Record.data, Record.localData, Zip64.localData, Zip64.ofSizes,
    Zip64.isEmpty, Zip64.word64, Zip64.word32]

/-- Whatever sizes its Zip64 record holds, an entry has the same extra fields around them. -/
theorem exists_payloadStands_withSizes {e : Entry κ} {size₀ compressedSize₀ : UInt64}
    {extra : Bytes}
    (h : (e.withSizes true size₀ compressedSize₀).extraData .localHeader = .ok extra) :
    ∃ front back : Bytes, ∀ size compressedSize,
      FieldList.PayloadStands Zip64.recordId (e.withSizes true size compressedSize).extra front
        (bytes64 size ++ bytes64 compressedSize) back := by
  -- the fields before and behind do not depend on the sizes
  obtain ⟨before, after, hbefore, -, hadd⟩ := e.extra.exists_add_eq Zip64.recordId
  have hextra : ∀ size compressedSize, (e.withSizes true size compressedSize).extra =
      before ++ .zip64 (.ofSizes size compressedSize) :: after :=
    fun size compressedSize => hadd (.zip64 (.ofSizes size compressedSize)) rfl rfl
  rw [extraData, hextra, Extra.merge_append_eq_ok_iff] at h
  obtain ⟨x, y, hx, hy, -⟩ := h
  obtain ⟨-, z, -, hz, -⟩ := Extra.merge_cons_eq_ok_iff.1 hy
  refine ⟨x ++ (bytes16 Zip64.recordId ++ Bytes.toLE 2 16), z, fun size compressedSize => ?_⟩
  have hdata := data_ofSizes (κ := κ) size compressedSize
  have hlength : ((Extra.Field.zip64 (.ofSizes size compressedSize) : Extra.Field κ).data
      .localHeader).length = 16 := by
    rw [hdata]
    simp
  have hstands := FieldList.PayloadStands.behind hbefore
    (f := .zip64 (.ofSizes size compressedSize)) rfl hx (by omega) hz
  rwa [hlength, hdata, ← hextra] at hstands

/-- A header that can be filled could be written before, and the same patches fill it. -/
theorem exists_localHeader_of_filledHeader {e : Entry κ} {name : Bytes} {reserved : Bool}
    {d : Digest} {filled : LocalHeader} (h : e.filledHeader name reserved d = .ok filled) :
    ∃ blank, (e.reserveSizes reserved).localHeader name reserved = .ok blank := by
  obtain ⟨extra, hextra, hname, hlen, -⟩ := filledHeader_eq_ok_iff.1 h
  cases reserved with
  | false => exact ⟨_, localHeader_eq_ok_iff.2 ⟨extra, hextra, hname, hlen, rfl⟩⟩
  | true =>
    obtain ⟨front, back, hstands⟩ := exists_payloadStands_withSizes hextra
    obtain rfl := Except.ok.inj (hextra.symm.trans (hstands _ _).merge_eq)
    refine ⟨_, localHeader_eq_ok_iff.2 ⟨_, (hstands 0 0).merge_eq, hname, ?_, rfl⟩⟩
    simpa using hlen

/-- With a Zip64 record a header is filled in its checksum and in that record. -/
theorem exists_filledHeader_of_reserved {e : Entry κ} {name : Bytes} {h : LocalHeader} (d : Digest)
    (hh : (e.reserveSizes true).localHeader name true = .ok h) :
    ∃ front back : Bytes,
      FieldList.PayloadStands Zip64.recordId (e.reserveSizes true).extra front
        (bytes64 0 ++ bytes64 0) back ∧
      h.extra = front ++ (bytes64 0 ++ bytes64 0) ++ back ∧
      e.filledHeader name true d = .ok { h with
        checksum := d.checksum
        extra := front ++ (Bytes.toLE 8 d.size ++ Bytes.toLE 8 d.compressedSize) ++ back } := by
  obtain ⟨extra, hextra, hname, hlen, rfl⟩ := localHeader_eq_ok_iff.1 hh
  obtain ⟨front, back, hstands⟩ := exists_payloadStands_withSizes hextra
  have hzero : extra = front ++ (bytes64 0 ++ bytes64 0) ++ back :=
    Except.ok.inj (hextra.symm.trans (hstands 0 0).merge_eq)
  refine ⟨front, back, hstands 0 0, hzero, ?_⟩
  have hfilled := (hstands (.ofNat d.size) (.ofNat d.compressedSize)).merge_eq
  rw [Bytes.bytes64_ofNat, Bytes.bytes64_ofNat] at hfilled
  refine bind_eq_ok_iff.2 ⟨_, localHeader_eq_ok_iff.2 ⟨_, hfilled, hname, ?_, rfl⟩, rfl⟩
  simpa [hzero] using hlen

/-! ### What is entered later -/

/-- The bytes that a digest enters in the local header of an entry, at their offsets. -/
inductive Filling (e : Entry κ) (name : Bytes) (d : Digest) : Bool → List (Nat × Bytes) → Prop
  /-- Checksum and sizes stand in the fields. -/
  | fields (hsize : d.size < marker32) (hcompressedSize : d.compressedSize < marker32) :
      Filling e name d false
        [(14, bytes32 d.checksum ++ Bytes.toLE 4 d.compressedSize ++ Bytes.toLE 4 d.size)]
  /-- The checksum stands in its field and the sizes are the payload of the first Zip64 record. -/
  | record {front payload back : Bytes}
      (hstands : FieldList.PayloadStands Zip64.recordId (e.reserveSizes true).extra front payload
        back)
      (hlength : payload.length = 16) :
      Filling e name d true
        [(14, bytes32 d.checksum),
          (30 + name.length + front.length, Bytes.toLE 8 d.size ++ Bytes.toLE 8 d.compressedSize)]

/-- The patches of an entry enter its digest in a blank local header, and that makes it the header
that would have been written if the digest had been known. -/
theorem exists_filling_of_patches {e : Entry κ} {name : Bytes} {reserved : Bool} {start : Nat}
    {d : Digest} {ps : List (Nat × Bytes)} {blank : LocalHeader}
    (hblank : (e.reserveSizes reserved).localHeader name reserved = .ok blank)
    (hps : (e.reserveSizes reserved).patches name reserved start d = .ok ps) :
    ∃ filling filled, e.Filling name d reserved filling ∧
      ps = filling.map (fun p => (start + p.1, p.2)) ∧
      e.filledHeader name reserved d = .ok filled ∧
      blank.toBytes.overwriteAll filling = .ok filled.toBytes := by
  have hname : blank.name = name := by
    obtain ⟨_, _, _, _, rfl⟩ := localHeader_eq_ok_iff.1 hblank
    rfl
  cases reserved with
  | false =>
    simp only [patches, Bool.false_eq_true, if_false] at hps
    split at hps
    case isTrue => exact absurd hps (by simp)
    case isFalse hfits =>
      obtain rfl := Except.ok.inj hps
      refine ⟨_, _, .fields (by omega) (by omega), rfl, filledHeader_of_not_reserved d hblank,
        Bytes.overwriteAll_cons_eq_ok_iff.2 ⟨_, ?_, rfl⟩⟩
      rw [← Bytes.bytes32_ofNat, ← Bytes.bytes32_ofNat]
      exact blank.overwrite_sums _ _ _
  | true =>
    obtain ⟨front, back, hstands, hextra, hfilled⟩ := exists_filledHeader_of_reserved d hblank
    simp only [patches, if_true, hstands.payloadOffset?_eq, Except.ok.injEq] at hps
    subst hps hname
    refine ⟨_, _, .record hstands (by simp), ?_, hfilled,
      Bytes.overwriteAll_cons_eq_ok_iff.2 ⟨_, blank.overwrite_checksum d.checksum,
        Bytes.overwriteAll_cons_eq_ok_iff.2 ⟨_, ?_, rfl⟩⟩⟩
    · simp only [List.map_cons, List.map_nil, LocalHeader.checksumOffset, LocalHeader.fixedSize,
        Nat.add_assoc]
    · exact LocalHeader.overwrite_extra { blank with checksum := d.checksum } hextra (by simp)

end Entry

end ZipArchive
