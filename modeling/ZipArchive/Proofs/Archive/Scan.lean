import ZipArchive.Proofs.Archive.ReadBack

/-!
# Archives scanned from the front

A reader can do without the central directory, and go from one local header to the next by what the
headers say themselves: `Extent.scan?`. In an archive whose entries have no records behind left-over
bytes this comes to the same entries as the central directory, one directly behind the other from
the start of the archive to the central directory: `writeArchive_scans`. Left-over bytes with
records behind them would hide the Zip64 record of a local header from such a reader.
-/

namespace ZipArchive

open Extra (FieldList Record Zip64)

variable {κ σ τ : Type} [Record κ]

/-! ### Scanning -/

namespace LocalFields

/-- Whether a size of the header is at its marker. -/
def isSaturated (h : LocalFields) : Bool :=
  h.size.toNat = marker32 || h.compressedSize.toNat = marker32

/-- The size of the data and that of the compressed data. If their fields are at the marker, they
are the two numbers in the first Zip64 record. -/
def sizes? (h : LocalFields) : Option (UInt64 × UInt64) :=
  if h.isSaturated then do
    let payload ← firstRecord? Zip64.recordId h.extra
    let sizes : Take (UInt64 × UInt64) := do
      let size ← Take.word64
      let compressedSize ← Take.word64
      return (size, compressedSize)
    Prod.fst <$> sizes.run payload
  else some (h.size.toUInt64, h.compressedSize.toUInt64)

end LocalFields

namespace Extent

/-- An entry as it is found by its local header. -/
structure Scanned where
  /-- The position of the local header. -/
  position : Nat
  /-- The fields of the local header. -/
  head : LocalFields
  /-- The size of the data. -/
  size : UInt64
  /-- The size of the compressed data. -/
  compressedSize : UInt64

/-- Scans as many entries as said, one behind the other, and tells the position behind them. -/
def scan? (x : Extent) : Nat → Nat → Option (List Scanned × Nat)
  | 0, position => some ([], position)
  | n + 1, position => do
    let head ← x.read? position Take.localFields
    let (size, compressedSize) ← head.sizes?
    let next := position + LocalHeader.fixedSize + head.name.length + head.extra.length +
      compressedSize.toNat
    let (more, stop) ← x.scan? n next
    return ({ position, head, size, compressedSize } :: more, stop)

/-- An entry found by its local header is the one found by its central header: they have the same
position, name, flags, method, time, checksum and sizes. No descriptor follows the data, and where a
size is at its marker the version for Zip64 is called for. -/
structure Scanned.Agrees (l : Scanned) (f : Found) : Prop where
  position_eq : l.position = f.location.offset.toNat
  name_eq : l.head.name = f.fields.name
  flags_eq : l.head.flags = f.fields.flags
  no_descriptor : l.head.flags.toNat.testBit 3 = false
  method_eq : l.head.method = f.fields.method
  modified_eq : l.head.modified = f.fields.modified
  checksum_eq : l.head.checksum = f.fields.checksum
  size_eq : l.size = f.location.size
  compressedSize_eq : l.compressedSize = f.location.compressedSize
  version_eq : l.head.isSaturated = true → l.head.versionNeeded = CentralHeader.zip64Version

end Extent

/-! ### The sizes in a local header -/

/-- A record is found behind others, if none of them has its id or is left-over bytes. -/
theorem firstRecord?_of_merge {id : UInt16} {before after : FieldList κ} {new : Extra.Field κ}
    {extra : Bytes} (hid : ∀ f ∈ before, f.hasId id = false)
    (hrecord : ∀ f ∈ before, f.isLeftover = false) (hnew : new.hasId id = true)
    (h : Extra.merge .localHeader (before ++ new :: after) = .ok extra) :
    firstRecord? id extra = some (new.data .localHeader) := by
  induction before generalizing extra with
  | nil =>
    obtain ⟨x, y, hx, -, rfl⟩ := Extra.merge_cons_eq_ok_iff.1 h
    simp only [Extra.Field.hasId, Bool.and_eq_true, Bool.not_eq_true', beq_iff_eq] at hnew
    obtain ⟨hlength, rfl⟩ := (Extra.Field.toStream_eq_ok_iff hnew.1).1 hx
    rw [firstRecord?_append y hlength, if_pos hnew.2]
  | cons f before ih =>
    obtain ⟨x, y, hx, hy, rfl⟩ := Extra.merge_cons_eq_ok_iff.1 h
    have hf := hrecord f (List.mem_cons_self ..)
    have hne : f.id ≠ id := by
      simpa [Extra.Field.hasId, hf] using hid f (List.mem_cons_self ..)
    obtain ⟨hlength, rfl⟩ := (Extra.Field.toStream_eq_ok_iff hf).1 hx
    rw [firstRecord?_append y hlength, if_neg hne]
    exact ih (fun g hg => hid g (List.mem_cons_of_mem _ hg))
      (fun g hg => hrecord g (List.mem_cons_of_mem _ hg)) hy

/-- The sizes that are reserved in a local header are found by a reader, unless left-over bytes with
records behind them are among the extra fields. -/
theorem firstRecord?_withSizes {e : Entry κ} {size compressedSize : UInt64} {extra : Bytes}
    (hlast : e.extra.LeftoverLast)
    (h : (e.withSizes true size compressedSize).extraData .localHeader = .ok extra) :
    firstRecord? Zip64.recordId extra = some (bytes64 size ++ bytes64 compressedSize) := by
  obtain ⟨before, after, hid, hrecord, hadd⟩ := e.extra.exists_add_eq Zip64.recordId
  have hextra : (e.withSizes true size compressedSize).extra =
      before ++ .zip64 (.ofSizes size compressedSize) :: after :=
    hadd (.zip64 (.ofSizes size compressedSize)) rfl rfl
  rw [Entry.extraData, hextra] at h
  rw [firstRecord?_of_merge hid (hrecord hlast) rfl h, Entry.data_ofSizes]

namespace Prepared.IsBlock

variable {p : Prepared κ} {mode : Zip64Mode} {start : Nat} {b : Block}

/-- The size fields of a block are at their markers exactly when room is reserved. -/
theorem isSaturated_fields (hb : p.IsBlock mode start b) :
    b.header.fields.isSaturated = mode.reserves p.entry := by
  have hsizes := hb.size_fields
  rw [LocalFields.isSaturated]
  cases hreserved : mode.reserves p.entry with
  | true =>
    simp only [hreserved, if_true] at hsizes
    simp [hsizes.1, toNat_saturate32]
  | false =>
    obtain ⟨hsize, hcompressed⟩ := hb.fits hreserved
    simp only [hreserved, Bool.false_eq_true, if_false] at hsizes
    rw [hsizes.1, hsizes.2, toNat_ofNat_of_lt_marker32 hsize,
      toNat_ofNat_of_lt_marker32 hcompressed, decide_eq_false (Nat.ne_of_lt hsize),
      decide_eq_false (Nat.ne_of_lt hcompressed), Bool.or_false]

/-- The sizes in the local header of a block are those of its data. -/
theorem sizes?_fields (hb : p.IsBlock mode start b) (hlast : p.entry.extra.LeftoverLast) :
    b.header.fields.sizes? =
      some (.ofNat b.central.digest.size, .ofNat b.central.digest.compressedSize) := by
  have hsizes := hb.size_fields
  rw [LocalFields.sizes?, hb.isSaturated_fields]
  cases hreserved : mode.reserves p.entry with
  | true =>
    obtain ⟨-, -, -, -, -, hextra⟩ := hb.header_fields
    rw [hreserved] at hextra
    have hpayload : firstRecord? Zip64.recordId b.header.fields.extra =
        some (bytes64 (.ofNat b.central.digest.size) ++
          (bytes64 (.ofNat b.central.digest.compressedSize) ++ [])) := by
      rw [List.append_nil]
      exact firstRecord?_withSizes hlast hextra
    simp only [if_true, hpayload, Option.bind_eq_bind, Option.bind_some, ← List.append_assoc]
    rw [Take.Takes.bind (.word64 _) (Take.Takes.word64 _).bind_pure []]
    rfl
  | false =>
    obtain ⟨hsize, hcompressed⟩ := hb.fits hreserved
    simp only [hreserved, Bool.false_eq_true, if_false] at hsizes ⊢
    rw [hsizes.1, hsizes.2, toUInt64_ofNat_of_lt_marker32 hsize,
      toUInt64_ofNat_of_lt_marker32 hcompressed]

end Prepared.IsBlock

/-! ### What is scanned in an archive -/

/-- The entry that a reader finds by the local header of a block. -/
def Block.scanned (b : Block) : Extent.Scanned where
  position := b.central.offset
  head := b.header.fields
  size := .ofNat b.central.digest.size
  compressedSize := .ofNat b.central.digest.compressedSize

/-- Both headers of a block give the same entry. -/
theorem Block.scanned_agrees {o : WriterOptions σ} {s : Submission κ} {p : Prepared κ} {b : Block}
    {start : Nat} (hprepare : o.prepare s = .ok p) (hblock : p.IsBlock o.zip64 start b)
    (hposition : start < UInt64.size) : b.scanned.Agrees b.found := by
  obtain ⟨hoffset, hname, -, hflags, hmethod, hmodified⟩ := hblock.central_fields
  obtain ⟨hname', hflags', hmethod', hmodified', hchecksum, -⟩ := hblock.header_fields
  refine ⟨?_, hname'.trans hname.symm, congrArg Flags.toWord (hflags'.trans hflags.symm), ?_,
    congrArg Method.id (hmethod'.trans hmethod.symm), hmodified'.trans hmodified.symm, hchecksum,
    rfl, rfl, fun hsaturated => hblock.version_eq (hblock.isSaturated_fields ▸ hsaturated)⟩
  · rw [← hoffset] at hposition
    exact (UInt64.toNat_ofNat_of_lt' hposition).symm
  · have hdescriptor : p.entry.flags.dataDescriptor = false := by
      obtain ⟨utf8Names, extra, hentry, -⟩ :=
        Entry.agreesButText_of_encodeText (o.prepare_eq_ok hprepare).1
      rw [hentry]
      rfl
    rw [← hdescriptor, ← hflags']
    exact congrArg Flags.dataDescriptor (Flags.ofWord_toWord b.header.flags)

/-- A block is scanned at its position, and what is scanned next stands behind it. -/
theorem Block.scan?_succ {o : WriterOptions σ} {x : Extent} {s : Submission κ} {p : Prepared κ}
    {b : Block} {front back : Bytes} (n : Nat) (hprepare : o.prepare s = .ok p)
    (hblock : p.IsBlock o.zip64 (x.start + front.length) b) (hlast : s.entry.extra.LeftoverLast)
    (hbytes : x.bytes = front ++ (b.bytes ++ back)) (hstop : x.stop < UInt64.size) :
    x.scan? (n + 1) (x.start + front.length) =
      (x.scan? n (x.start + front.length + b.bytes.length)).map
        fun (more, stop) => (b.scanned :: more, stop) := by
  have hhead : x.read? (x.start + front.length) Take.localFields = some b.header.fields := by
    refine Extent.read?_eq_some front (b.data ++ back) ?_ rfl hblock.takes_header
    rw [hbytes, Block.bytes, List.append_assoc]
  have hlast' : p.entry.extra.LeftoverLast := by
    obtain ⟨utf8Names, extra, hentry, hextra⟩ :=
      Entry.agreesButText_of_encodeText (o.prepare_eq_ok hprepare).1
    rw [hentry]
    exact hextra hlast
  have hnext : x.start + front.length + LocalHeader.fixedSize + b.header.fields.name.length +
      b.header.fields.extra.length + (UInt64.ofNat b.central.digest.compressedSize).toNat =
      x.start + front.length + b.bytes.length := by
    have hdata : b.data.length < UInt64.size := by
      simp only [Extent.stop, hbytes, Block.bytes, List.length_append] at hstop
      exact Nat.lt_of_le_of_lt (by omega) hstop
    rw [hblock.compressedSize_eq hprepare, UInt64.toNat_ofNat_of_lt' hdata, Block.bytes,
      List.length_append, LocalHeader.length_toBytes]
    simp only [LocalHeader.fields]
    omega
  simp only [Extent.scan?, hhead, hblock.sizes?_fields hlast', Option.bind_eq_bind,
    Option.bind_some, hnext]
  rw [← hblock.central_fields.1]
  cases x.scan? n (b.central.offset + b.bytes.length) with
  | none => rfl
  | some found => rfl

/-- Blocks that follow one another are scanned one after the other. -/
theorem Blocks.scan?_eq {o : WriterOptions σ} {x : Extent} {start : Nat} {ss : List (Submission κ)}
    {blocks : List Block} {front back : Bytes} (h : Blocks o start ss blocks)
    (hlast : ∀ s ∈ ss, s.entry.extra.LeftoverLast)
    (hbytes : x.bytes = front ++ (blocks.flatMap Block.bytes ++ back))
    (hstart : start = x.start + front.length) (hstop : x.stop < UInt64.size) :
    x.scan? blocks.length start =
        some (blocks.map Block.scanned, start + (blocks.flatMap Block.bytes).length) ∧
      List.Forall₂ Extent.Scanned.Agrees (blocks.map Block.scanned) (blocks.map Block.found) := by
  -- by induction on the blocks, `front` being those that were scanned before
  induction h generalizing front with
  | nil => exact ⟨rfl, .nil⟩
  | @cons start s p b ss blocks hprepare hblock hrest ih =>
    subst hstart
    have hposition : x.start + front.length < UInt64.size := by
      refine Nat.lt_of_le_of_lt ?_ hstop
      rw [Extent.stop, hbytes, List.length_append]
      omega
    rw [List.flatMap_cons, List.append_assoc] at hbytes
    have hbytes' : x.bytes = (front ++ b.bytes) ++ (blocks.flatMap Block.bytes ++ back) := by
      rw [hbytes, List.append_assoc]
    obtain ⟨hscan, hagree⟩ := ih (fun s hs => hlast s (List.mem_cons_of_mem _ hs)) hbytes'
      (by rw [List.length_append, Nat.add_assoc])
    refine ⟨?_, .cons (Block.scanned_agrees hprepare hblock hposition) hagree⟩
    rw [List.length_cons,
      Block.scan?_succ _ hprepare hblock (hlast s (List.mem_cons_self ..)) hbytes hstop, hscan,
      List.flatMap_cons, List.length_append, Nat.add_assoc]
    rfl

variable [Sink τ] [LawfulSink τ]

/-- An archive that is written to its end, of entries whose extra fields have left-over bytes in
last place only, can be scanned from its first local header. The entries are directly behind one
another, up to the central directory, and each is the one that the central directory gives. -/
theorem writeArchive_scans {o : WriterOptions σ} {queue : List (Source κ)} {summary : Summary}
    {s t : τ} {base : Nat} {before : Bytes} (hs : LawfulSink.Holds s base before)
    (h : (writeArchive o queue).outcome s = (.ok summary, t))
    (hposition : Sink.position t < UInt64.size)
    (hlast : ∀ s, .ok s ∈ queue.flatMap Source.submissions → s.entry.extra.LeftoverLast) :
    ∃ archive directory entries scanned,
      LawfulSink.Holds t base (before ++ archive) ∧
      Extent.directory? ⟨base + before.length, archive⟩ = some directory ∧
      Extent.entries? ⟨base + before.length, archive⟩ = some entries ∧
      entries.length = (queue.flatMap Source.submissions).length ∧
      Extent.scan? ⟨base + before.length, archive⟩ entries.length (base + before.length) =
        some (scanned, directory.directoryOffset) ∧
      List.Forall₂ Extent.Scanned.Agrees scanned entries := by
  obtain ⟨submissions, blocks, directory, archive, hqueue, harchive, ht⟩ :=
    exists_archive_of_writeArchive hs h
  rw [LawfulSink.position_eq ht, List.length_append, ← Nat.add_assoc] at hposition
  rw [hqueue] at hlast ⊢
  have hlength := harchive.blocks_of.recovers.length_eq
  obtain ⟨zip64, -, hbytes⟩ := harchive.archive_eq
  have hbytes' : (⟨base + before.length, archive⟩ : Extent).bytes =
      [] ++ (blocks.flatMap Block.bytes ++ (directory ++
        (endRecordOf (base + before.length) blocks directory).toBytes zip64)) := by
    rw [List.nil_append, ← List.append_assoc, ← hbytes]
  obtain ⟨hscan, hagree⟩ := harchive.blocks_of.scan?_eq
    (fun s hs => hlast s (List.mem_map_of_mem hs)) hbytes' rfl hposition
  refine ⟨archive, _, _, _, ht, IsArchive.directory?_eq (x := ⟨_, archive⟩) harchive hposition,
    IsArchive.entries?_eq (x := ⟨_, archive⟩) harchive hposition, ?_, ?_, hagree⟩
  · rw [← hlength, List.length_map]
  · rw [List.length_map]
    exact hscan

/-- The entries of the sample leave no bytes over, so that a reader that goes from one local header to
the next finds the same two entries, and comes to the directory. -/
theorem sample_scans :
    sampleOutcome.1 = .ok ⟨2, 3, 3, marker32 + 86, marker32 + 303⟩ ∧
    Sink.position sampleOutcome.2 < UInt64.size ∧
    (∀ s, .ok s ∈ sampleQueue.flatMap Source.submissions → s.entry.extra.LeftoverLast) ∧
    ∃ archive directory entries scanned,
      LawfulSink.Holds sampleOutcome.2 marker32 archive ∧
      Extent.directory? ⟨marker32, archive⟩ = some directory ∧
      Extent.entries? ⟨marker32, archive⟩ = some entries ∧
      entries.length = (sampleQueue.flatMap Source.submissions).length ∧
      Extent.scan? ⟨marker32, archive⟩ entries.length marker32 =
        some (scanned, directory.directoryOffset) ∧
      List.Forall₂ Extent.Scanned.Agrees scanned entries := by
  have hresult : sampleOutcome.1 = .ok ⟨2, 3, 3, marker32 + 86, marker32 + 303⟩ := by
    decide +kernel
  have hposition : Sink.position sampleOutcome.2 < UInt64.size := by decide +kernel
  have hlast : ∀ s, .ok s ∈ sampleQueue.flatMap Source.submissions →
      s.entry.extra.LeftoverLast := by
    intro s hs
    rcases hs with _ | ⟨_, _ | ⟨_, hs⟩⟩
    · exact .nil
    · exact .nil
    · cases hs
  exact ⟨hresult, hposition, hlast, writeArchive_scans
    (ContinuedSink.holds_tail { base := marker32 }) (Prod.ext hresult rfl) hposition hlast⟩

end ZipArchive
