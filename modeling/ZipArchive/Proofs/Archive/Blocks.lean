import ZipArchive.Proofs.Archive.HeaderFields
import ZipArchive.Proofs.Archive.Layout
import ZipArchive.Proofs.Archive.Prepare

/-!
# The blocks of an archive

A `Block` is what a written entry leaves behind: a local header with the data behind it, and the
header for the central directory. When the writer comes to a summary, the archive is a sequence of
blocks, one for each submission and in their order, with the central directory and the end records
behind the last: `exists_archive_of_writeArchive`. Each block stands where its central header says,
`Blocks.exists_append_of_mem`.
-/

namespace ZipArchive

open Extra (FieldList Record Zip64)

/-- A written entry. -/
structure Block where
  /-- The local header, with its checksum and sizes. -/
  header : LocalHeader
  /-- The compressed data. -/
  data : Bytes
  /-- The header for the central directory. -/
  central : CentralHeader

/-- The bytes of a block, less those in the central directory. -/
def Block.bytes (b : Block) : Bytes := b.header.toBytes ++ b.data

variable {κ σ τ : Type} [Record κ]

/-! ### Entries as blocks -/

/-- A prepared entry comes to the block `b` when it is written at `start`. -/
structure Prepared.IsBlock (p : Prepared κ) (mode : Zip64Mode) (start : Nat) (b : Block) :
    Prop where
  ending_eq : p.data.ending = .ok b.central.digest
  data_eq : b.data = p.data.pieces.flatten
  header_eq : p.entry.filledHeader p.text.name (mode.reserves p.entry) b.central.digest =
    .ok b.header
  central_eq : (p.entry.reserveSizes (mode.reserves p.entry)).centralHeader p.text
    (mode.reserves p.entry) start b.central.digest = .ok b.central
  fits : mode.reserves p.entry = false →
    b.central.digest.size < marker32 ∧ b.central.digest.compressedSize < marker32

theorem Entry.centralHeader_eq_ok_iff {e : Entry κ} {text : EncodedText} {reserved : Bool}
    {offset : Nat} {d : Digest} {h : CentralHeader} :
    e.centralHeader text reserved offset d = .ok h ↔
      ∃ extra, (e.removeExtra Zip64.recordId).extraData .central = .ok extra ∧ h =
        { versionNeeded := if reserved then CentralHeader.zip64Version else e.method.versionNeeded
          flags := e.flags
          method := e.method
          modified := e.dosTime
          digest := d
          name := text.name
          comment := text.comment
          extra := extra
          externalAttributes := e.externalAttributes
          offset := offset } := by
  rw [centralHeader, bind_eq_ok_iff]
  constructor
  · rintro ⟨extra, hextra, heq⟩
    exact ⟨extra, hextra, (Except.ok.inj heq).symm⟩
  · rintro ⟨extra, hextra, rfl⟩
    exact ⟨extra, hextra, rfl⟩

/-- A local header without room in a Zip64 record takes sizes of four bytes only. -/
theorem Entry.sizes_lt_of_patches {e : Entry κ} {name : Bytes} {start : Nat} {d : Digest}
    {ps : List (Nat × Bytes)} (h : e.patches name false start d = .ok ps) :
    d.size < marker32 ∧ d.compressedSize < marker32 := by
  simp only [patches, Bool.false_eq_true, if_false] at h
  split at h
  case isTrue => exact absurd h (by simp)
  case isFalse hfits => exact ⟨by omega, by omega⟩

/-- An entry whose layout is complete is a block. -/
theorem Prepared.exists_block_of_layout {p : Prepared κ} {mode : Zip64Mode} {start : Nat}
    {h : CentralHeader} (hlayout : (p.layout mode start).2 = .ok h) :
    ∃ b : Block, b.central = h ∧ (p.layout mode start).1 = b.bytes ∧ p.IsBlock mode start b := by
  simp only [layout] at hlayout ⊢
  cases hblank : (p.entry.reserveSizes (mode.reserves p.entry)).localHeader p.text.name
    (mode.reserves p.entry) with
  | error e => exact absurd hlayout (by simp [hblank])
  | ok blank =>
    cases hending : p.data.ending with
    | error e => exact absurd hlayout (by simp [hblank, hending])
    | ok digest =>
      simp only [hblank, hending] at hlayout ⊢
      split at hlayout
      case h_1 ps filled hps hfilled =>
        -- the digest of the central header is the one that the data came to
        have hdigest : h.digest = digest := by
          obtain ⟨extra, -, rfl⟩ := Entry.centralHeader_eq_ok_iff.1 hlayout
          rfl
        subst hdigest
        refine ⟨⟨filled, p.data.pieces.flatten, h⟩, rfl, ?_, hending, rfl, hfilled, hlayout, ?_⟩
        · simp only [Block.bytes]
        · intro hreserved
          rw [hreserved] at hps
          exact Entry.sizes_lt_of_patches hps
      case h_2 => cases hlayout
      case h_3 => cases hlayout

namespace Prepared.IsBlock

variable {p : Prepared κ} {mode : Zip64Mode} {start : Nat} {b : Block}

/-- The central header of a block. -/
theorem central_fields (hb : p.IsBlock mode start b) :
    b.central.offset = start ∧ b.central.name = p.text.name ∧ b.central.comment = p.text.comment ∧
      b.central.flags = p.entry.flags ∧ b.central.method = p.entry.method ∧
      b.central.modified = p.entry.dosTime := by
  obtain ⟨extra, -, hcentral⟩ := Entry.centralHeader_eq_ok_iff.1 hb.central_eq
  rw [hcentral]
  refine ⟨rfl, rfl, rfl, ?_, ?_, ?_⟩ <;> cases mode.reserves p.entry <;> rfl

/-- The local header of a block. -/
theorem header_fields (hb : p.IsBlock mode start b) :
    b.header.name = p.text.name ∧ b.header.flags = p.entry.flags ∧
      b.header.method = p.entry.method ∧ b.header.modified = p.entry.dosTime ∧
      b.header.checksum = b.central.digest.checksum ∧
      (p.entry.withSizes (mode.reserves p.entry) (.ofNat b.central.digest.size)
        (.ofNat b.central.digest.compressedSize)).extraData .localHeader = .ok b.header.extra := by
  obtain ⟨extra, hextra, -, -, hheader⟩ := Entry.filledHeader_eq_ok_iff.1 hb.header_eq
  rw [hheader]
  exact ⟨rfl, rfl, rfl, rfl, rfl, hextra⟩

theorem size_fields (hb : p.IsBlock mode start b) :
    b.header.fields.size = (if mode.reserves p.entry then saturate32 marker32
      else .ofNat b.central.digest.size) ∧
    b.header.fields.compressedSize = (if mode.reserves p.entry then saturate32 marker32
      else .ofNat b.central.digest.compressedSize) := by
  obtain ⟨extra, -, -, -, hheader⟩ := Entry.filledHeader_eq_ok_iff.1 hb.header_eq
  rw [hheader]
  exact ⟨rfl, rfl⟩

theorem version_eq (hb : p.IsBlock mode start b) (hreserved : mode.reserves p.entry = true) :
    b.header.fields.versionNeeded = CentralHeader.zip64Version := by
  obtain ⟨extra, -, -, -, hheader⟩ := Entry.filledHeader_eq_ok_iff.1 hb.header_eq
  rw [hheader]
  exact if_pos hreserved

/-- The compressed size that is announced is the length of the data. -/
theorem compressedSize_eq {o : WriterOptions σ} {s : Submission κ} (hprepare : o.prepare s = .ok p)
    (hb : p.IsBlock mode start b) : b.central.digest.compressedSize = b.data.length := by
  obtain ⟨-, hpieces, hdigest⟩ := o.prepare_eq_ok hprepare
  rw [(hdigest _ hb.ending_eq).1, hb.data_eq, hpieces]
  rfl

theorem takes_header (hb : p.IsBlock mode start b) :
    Take.localFields.Takes b.header.toBytes b.header.fields := by
  obtain ⟨extra, -, hname, hlength, hheader⟩ := Entry.filledHeader_eq_ok_iff.1 hb.header_eq
  refine LocalHeader.takes_fields ?_ ?_
  · rwa [hheader]
  · rwa [hheader]

end Prepared.IsBlock

theorem exists_block_of_layoutSubmission {o : WriterOptions σ} {start : Nat}
    {s : Except Fault (Submission κ)} {out : Bytes} {h : CentralHeader}
    (hlayout : layoutSubmission o start s = (out, .ok h)) :
    ∃ p, s.bind o.prepare = .ok p ∧
      ∃ b : Block, b.central = h ∧ b.bytes = out ∧ p.IsBlock o.zip64 start b := by
  rw [layoutSubmission] at hlayout
  cases hp : s.bind o.prepare with
  | error e => exact absurd hlayout (by simp [hp])
  | ok p =>
    simp only [hp] at hlayout
    obtain ⟨b, hcentral, hout, hb⟩ :=
      Prepared.exists_block_of_layout (congrArg Prod.snd hlayout)
    exact ⟨p, rfl, b, hcentral, by rw [← hout, hlayout], hb⟩

/-! ### Runs of entries -/

/-- The submissions come to the blocks when they are written from `start` on. -/
inductive Blocks (o : WriterOptions σ) : Nat → List (Submission κ) → List Block → Prop
  /-- Nothing is written. -/
  | nil (start : Nat) : Blocks o start [] []
  /-- A block is written, and others behind it. -/
  | cons {start : Nat} {s : Submission κ} {p : Prepared κ} {b : Block} {ss : List (Submission κ)}
      {bs : List Block} (hprepare : o.prepare s = .ok p) (hblock : p.IsBlock o.zip64 start b)
      (hrest : Blocks o (start + b.bytes.length) ss bs) : Blocks o start (s :: ss) (b :: bs)

/-- Each block stands where its central header says. -/
theorem Blocks.exists_append_of_mem {o : WriterOptions σ} {start : Nat} {ss : List (Submission κ)}
    {bs : List Block} {b : Block} (h : Blocks o start ss bs) (hb : b ∈ bs) :
    ∃ (s : Submission κ) (p : Prepared κ) (front back : Bytes), o.prepare s = .ok p ∧
      p.IsBlock o.zip64 (start + front.length) b ∧
      bs.flatMap Block.bytes = front ++ (b.bytes ++ back) := by
  induction h with
  | nil => cases hb
  | @cons start s p b' ss bs hprepare hblock hrest ih =>
    rcases List.mem_cons.1 hb with rfl | hb
    · exact ⟨s, p, [], bs.flatMap Block.bytes, hprepare, hblock, rfl⟩
    · obtain ⟨s', p', front, back, hprepare', hblock', hsplit⟩ := ih hb
      refine ⟨s', p', b'.bytes ++ front, back, hprepare', ?_, ?_⟩
      · rwa [List.length_append, ← Nat.add_assoc]
      · rw [List.flatMap_cons, hsplit, List.append_assoc]

/-- A complete layout of submissions is a sequence of blocks. -/
theorem exists_blocks_of_layoutEntries {o : WriterOptions σ} {start : Nat}
    {ss : List (Except Fault (Submission κ))} {headers : List CentralHeader}
    (h : (layoutEntries o start ss).2 = .ok headers) :
    ∃ submissions blocks, ss = submissions.map .ok ∧ headers = blocks.map Block.central ∧
      (layoutEntries o start ss).1 = blocks.flatMap Block.bytes ∧
      Blocks o start submissions blocks := by
  induction ss generalizing start headers with
  | nil =>
    obtain rfl := Except.ok.inj h
    exact ⟨[], [], rfl, rfl, rfl, .nil start⟩
  | cons s ss ih =>
    simp only [layoutEntries] at h ⊢
    rcases hs : layoutSubmission o start s with ⟨out, e | header⟩
    · exact absurd h (by simp [hs])
    simp only [hs] at h ⊢
    obtain ⟨rest, hrest, rfl⟩ := map_eq_ok_iff.1 h
    obtain ⟨submissions, blocks, rfl, rfl, hbytes, hblocks⟩ := ih hrest
    obtain ⟨p, hp, b, rfl, rfl, hb⟩ := exists_block_of_layoutSubmission hs
    obtain ⟨s, rfl, hprepare⟩ := bind_eq_ok_iff.1 hp
    exact ⟨s :: submissions, b :: blocks, rfl, rfl, by rw [hbytes, List.flatMap_cons],
      .cons hprepare hb hblocks⟩

/-! ### Archives -/

/-- The end record for blocks from `start` on with a central directory behind them. -/
def endRecordOf (start : Nat) (blocks : List Block) (directory : Bytes) : EndRecord where
  entries := blocks.length
  directorySize := directory.length
  directoryOffset := start + (blocks.flatMap Block.bytes).length

/-- The archive of the submissions from `start` on consists of the blocks, the central directory and
end records that have the Zip64 form where it is needed. -/
structure IsArchive (o : WriterOptions σ) (start : Nat) (submissions : List (Submission κ))
    (blocks : List Block) (directory archive : Bytes) : Prop where
  blocks_of : Blocks o start submissions blocks
  directory_eq : centralDirectory (blocks.map Block.central) = .ok directory
  archive_eq : ∃ zip64, ((endRecordOf start blocks directory).needsZip64 = true → zip64 = true) ∧
    archive = blocks.flatMap Block.bytes ++ directory ++
      (endRecordOf start blocks directory).toBytes zip64

private theorem layoutDirectory_eq_ok {mode : Zip64Mode} {blocks : List Block} {start : Nat}
    {summary : Summary}
    (h : (layoutDirectory mode (blocks.map Block.central)
      (start + (blocks.flatMap Block.bytes).length)).2 = .ok summary) :
    ∃ directory zip64, centralDirectory (blocks.map Block.central) = .ok directory ∧
      ((endRecordOf start blocks directory).needsZip64 = true → zip64 = true) ∧
      (layoutDirectory mode (blocks.map Block.central)
        (start + (blocks.flatMap Block.bytes).length)).1 =
        directory ++ (endRecordOf start blocks directory).toBytes zip64 := by
  simp only [layoutDirectory] at h ⊢
  cases hdirectory : centralDirectory (blocks.map Block.central) with
  | error e => exact absurd h (by simp [hdirectory])
  | ok directory =>
    simp only [List.length_map]
    refine ⟨directory, _, rfl, fun hneeds => ?_, rfl⟩
    rw [endRecordOf] at hneeds
    rw [hneeds, Bool.or_true, Bool.true_or]

variable [Sink τ] [LawfulSink τ]

/-- Writing that comes to a summary has appended the archive of all submissions. -/
theorem exists_archive_of_writeArchive {o : WriterOptions σ} {queue : List (Source κ)}
    {summary : Summary} {s t : τ} {base : Nat} {before : Bytes}
    (hs : LawfulSink.Holds s base before)
    (h : (writeArchive o queue).outcome s = (.ok summary, t)) :
    ∃ submissions blocks directory archive,
      queue.flatMap Source.submissions = submissions.map .ok ∧
      IsArchive o (base + before.length) submissions blocks directory archive ∧
      LawfulSink.Holds t base (before ++ archive) := by
  rw [writeArchive] at h
  -- the entries come first
  obtain ⟨u, hu, huholds⟩ :=
    (writeEntries_turns (τ := τ) o (queue.flatMap Source.submissions) _).run hs
  cases hentries : (layoutEntries o (base + before.length)
    (queue.flatMap Source.submissions)).2 with
  | error e =>
    rw [hentries] at hu
    rw [Writing.outcome_bind_error hu] at h
    exact absurd h (by simp)
  | ok headers =>
    obtain ⟨submissions, blocks, hqueue, rfl, hout, hblocks⟩ :=
      exists_blocks_of_layoutEntries hentries
    rw [hentries] at hu
    rw [hout] at huholds
    rw [Writing.outcome_bind_ok hu] at h
    -- the central directory and the end records go behind them
    obtain ⟨v, hv, hvholds⟩ :=
      (writeDirectory_turns (τ := τ) o.zip64 (blocks.map Block.central) _).run huholds
    rw [List.length_append, ← Nat.add_assoc] at hv hvholds
    cases hdirectory : (layoutDirectory o.zip64 (blocks.map Block.central)
      (base + before.length + (blocks.flatMap Block.bytes).length)).2 with
    | error e =>
      rw [hdirectory] at hv
      rw [Writing.outcome_bind_error hv] at h
      exact absurd h (by simp)
    | ok summary' =>
      obtain ⟨directory, zip64, hdir, hneeds, hbytes⟩ := layoutDirectory_eq_ok hdirectory
      rw [hdirectory] at hv
      rw [hbytes] at hvholds
      rw [Writing.outcome_bind_ok hv] at h
      refine ⟨submissions, blocks, directory, _, hqueue, ⟨hblocks, hdir, zip64, hneeds, rfl⟩, ?_⟩
      -- whatever a flush comes to, the sink holds the same bytes
      have ht : t = (Sink.flush v).2 := by
        have hflush : (Writing.flush : Writing τ Unit).outcome v = Sink.flush v := rfl
        rcases hw : Sink.flush v with ⟨e | ⟨⟩, w⟩
        · rw [Writing.outcome_bind_error (hflush.trans hw)] at h
          exact (congrArg Prod.snd h).symm
        · rw [Writing.outcome_bind_ok (hflush.trans hw)] at h
          exact (congrArg Prod.snd h).symm
      rw [ht]
      simpa only [List.append_assoc] using LawfulSink.flush_holds hvholds

end ZipArchive
