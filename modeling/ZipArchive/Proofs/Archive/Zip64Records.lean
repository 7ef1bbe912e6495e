import ZipArchive.Proofs.Archive.ReadBack
import ZipArchive.Proofs.Extra.OrderedMap

/-!
# The Zip64 records of an entry

A local header has one Zip64 record if room for the sizes is reserved in it and none otherwise, and
a central header has one, with the values that their fields do not hold, if there are any. For this
the writer puts its own record in the place of one that the entry has, or takes that one away. It
does so with the first one only. So each header has just the records that it should have if and only
if the entry had one at most, `Prepared.zip64Records_iff`; the records that were set from a stream
may have more, `Prepared.zip64Records_sampleRepeated`.

What counts is what a reader finds. Left-over bytes come last in a header, and count for the records
that they look like.
-/

namespace ZipArchive

open Extra (FieldList Leftover Record Registry StartsWithRecord Zip64 recordIds)

namespace Extra

variable {κ : Type} [Record κ]

/-! ### Counting records -/

namespace FieldList

/-- The number of records with an id. -/
def countId (id : UInt16) (fields : FieldList κ) : Nat :=
  fields.countP (Field.hasId id)

/-- The left-over bytes of a list in a header. -/
def leftoverBytes (place : Place) (fields : FieldList κ) : Bytes :=
  fields.leftovers.flatMap (Field.data place)

/-- Adding a record leaves one with its id, or as many as there are. -/
theorem countId_add (fields : FieldList κ) {new : Field κ} (hnew : new.isLeftover = false) :
    (fields.add new).countId new.id = max 1 (fields.countId new.id) := by
  have hself : new.hasId new.id = true := by simp [Field.hasId, hnew]
  rw [countId, countId]
  rcases fields.add_cases hnew with
    ⟨before, old, after, rfl, hold, hadd⟩ | ⟨before, after, rfl, hnone, -, hadd⟩
  · rw [hadd, List.countP_append, List.countP_append, List.countP_cons_of_pos hself,
      List.countP_cons_of_pos hold]
    omega
  · have hzero : List.countP (Field.hasId new.id) (before ++ after) = 0 :=
      List.countP_eq_zero.2 fun f hf => by simp [hnone f hf]
    rw [hadd, List.countP_append, List.countP_cons_of_pos hself]
    rw [List.countP_append] at hzero ⊢
    omega

/-- Removing a record leaves one less with its id, if there was one. -/
theorem countId_remove (fields : FieldList κ) (id : UInt16) :
    (fields.remove id).countId id = fields.countId id - 1 := by
  rw [remove, countId, countId]
  induction fields with
  | nil => rfl
  | cons f fields ih =>
    cases hf : f.hasId id with
    | true => rw [List.eraseP_cons_of_pos hf, List.countP_cons_of_pos hf, Nat.add_sub_cancel]
    | false =>
      have hnot : ¬f.hasId id = true := by simp [hf]
      rw [List.eraseP_cons_of_neg hnot, List.countP_cons_of_neg hnot,
        List.countP_cons_of_neg hnot, ih]

/-- Adding a record does nothing to left-over bytes. -/
theorem leftovers_add (fields : FieldList κ) {new : Field κ} (hnew : new.isLeftover = false) :
    (fields.add new).leftovers = fields.leftovers := by
  have hskip : ∀ (before after : FieldList κ) {f : Field κ}, f.isLeftover = false →
      leftovers (before ++ f :: after) = leftovers (before ++ after) := by
    intro before after f hf
    have hnot : ¬f.isLeftover = true := by simp [hf]
    rw [leftovers, leftovers, List.filter_append, List.filter_append, List.filter_cons_of_neg hnot]
  rcases fields.add_cases hnew with
    ⟨before, old, after, rfl, hold, hadd⟩ | ⟨before, after, rfl, -, -, hadd⟩
  · have holdRecord : old.isLeftover = false := by
      simpa using (Bool.and_eq_true_iff.1 hold).1
    rw [hadd, hskip before after hnew, hskip before after holdRecord]
  · rw [hadd, hskip before after hnew]

/-- Removing a record does nothing to left-over bytes. -/
theorem leftovers_remove (fields : FieldList κ) (id : UInt16) :
    (fields.remove id).leftovers = fields.leftovers := by
  rw [remove, leftovers, leftovers]
  induction fields with
  | nil => rfl
  | cons f fields ih =>
    cases hf : f.hasId id with
    | true =>
      have hrecord : ¬f.isLeftover = true := by simpa using (Bool.and_eq_true_iff.1 hf).1
      rw [List.eraseP_cons_of_pos hf, List.filter_cons_of_neg hrecord]
    | false =>
      have hnot : ¬f.hasId id = true := by simp [hf]
      rw [List.eraseP_cons_of_neg hnot, List.filter_cons, List.filter_cons, ih]

theorem count_ids (fields : FieldList κ) (id : UInt16) :
    fields.ids.count id = fields.countId id := by
  rw [ids, records, List.count, List.countP_map, List.countP_filter, countId]
  exact List.countP_congr fun f _ => by simp [Field.hasId, and_comm]

end FieldList

/-- A reader of a stream finds the records of the list, and what left-over bytes in last place look
like. -/
theorem recordIds_of_merge {place : Place} {fields : FieldList κ} (hlast : fields.LeftoverLast)
    {bs : Bytes} (h : merge place fields = .ok bs) :
    recordIds bs = fields.ids ++ recordIds (fields.leftoverBytes place) := by
  induction fields generalizing bs with
  | nil =>
    obtain rfl := Except.ok.inj h
    rfl
  | cons f fields ih =>
    obtain ⟨x, y, hx, hy, rfl⟩ := merge_cons_eq_ok_iff.1 h
    obtain ⟨hhead, hrest⟩ := List.pairwise_cons.1 hlast
    cases hf : f.isLeftover with
    | false =>
      obtain ⟨hlength, rfl⟩ := (Field.toStream_eq_ok_iff hf).1 hx
      have hids : FieldList.ids (f :: fields) = f.id :: FieldList.ids fields := by
        simp [FieldList.ids, FieldList.records, hf]
      have htail : FieldList.leftoverBytes place (f :: fields) =
          FieldList.leftoverBytes place fields := by
        simp [FieldList.leftoverBytes, FieldList.leftovers, hf]
      rw [recordIds_append y hlength, ih hrest hy, hids, htail, List.cons_append]
    | true =>
      -- nothing stands behind left-over bytes
      cases fields with
      | cons g fields => cases hf.symm.trans (hhead g (List.mem_cons_self ..))
      | nil =>
        obtain rfl : [] = y := Except.ok.inj hy
        have hdata : x = f.data place := by
          rw [Field.toStream, hf, if_pos rfl] at hx
          exact (Except.ok.inj hx).symm
        have hids : FieldList.ids [f] = [] := by simp [FieldList.ids, FieldList.records, hf]
        have htail : FieldList.leftoverBytes place [f] = f.data place := by
          simp [FieldList.leftoverBytes, FieldList.leftovers, hf]
        rw [hids, htail, hdata, List.append_nil, List.nil_append]

/-- The records with an id that a reader finds. -/
theorem count_recordIds_of_merge {place : Place} {fields : FieldList κ}
    (hlast : fields.LeftoverLast) {bs : Bytes} (h : merge place fields = .ok bs) (id : UInt16) :
    (recordIds bs).count id = fields.countId id + (recordIds (fields.leftoverBytes place)).count id := by
  rw [recordIds_of_merge hlast h, List.count_append, FieldList.count_ids]

end Extra

/-- An entry whose extra fields were set from a stream has the records of the stream, and what is
left over looks like no record. -/
theorem Entry.countId_of_setLocalExtra {κ : Type} [Record κ] {e e' : Entry κ} {stream : Bytes}
    (h : e.setLocalExtra .builtin stream = (.ok (), e')) (id : UInt16) :
    e'.extra.countId id = (recordIds stream).count id ∧
      ∀ place, recordIds (e'.extra.leftoverBytes place) = [] := by
  obtain ⟨fields, hparse, rfl⟩ := setLocalExtra_eq_ok_iff.1 h
  obtain ⟨own, tail, rfl, htail, hown, hids⟩ := FieldList.exists_of_parse hparse
  constructor
  · rw [← FieldList.count_ids, FieldList.ids_endedBy _ hown, hids]
  · intro place
    rw [FieldList.leftoverBytes, FieldList.leftovers_endedBy _ hown, Extra.leftover?]
    split
    case isTrue =>
      exact Extra.recordIds_of_not_startsWithRecord
        (Extra.not_startsWithRecord_of_length_lt (by simp))
    case isFalse =>
      have hdata : (Extra.Field.leftover (.ofBytes .localHeader tail) : Extra.Field κ).data place =
          tail := by
        cases place <;> rfl
      rw [Option.toList_some, List.map_singleton, List.flatMap_singleton, hdata]
      exact Extra.recordIds_of_not_startsWithRecord htail

/-! ### The records of central headers -/

namespace CentralHeader

/-- The values that their fields do not hold, in the order of the Zip64 record. -/
def saturated (h : CentralHeader) : List Nat :=
  [h.digest.size, h.digest.compressedSize, h.offset].filter (marker32 ≤ ·)

private theorem word64_overflow32? (n : Nat) :
    Zip64.word64 (overflow32? n) = ([n].filter (marker32 ≤ ·)).flatMap (Bytes.toLE 8) := by
  rw [overflow32?]
  split
  case isTrue h =>
    have hkept : [n].filter (marker32 ≤ ·) = [n] := by simp [h]
    rw [hkept, List.flatMap_singleton]
    exact Bytes.bytes64_ofNat n
  case isFalse h =>
    have hnone : [n].filter (marker32 ≤ ·) = [] := by simp [h]
    rw [hnone]
    rfl

/-- The payload of the Zip64 record. -/
theorem centralData_zip64 (h : CentralHeader) :
    h.zip64.centralData = h.saturated.flatMap (Bytes.toLE 8) := by
  have hsplit : [h.digest.size, h.digest.compressedSize, h.offset] =
      [h.digest.size] ++ ([h.digest.compressedSize] ++ [h.offset]) := rfl
  rw [saturated, hsplit, List.filter_append, List.filter_append, List.flatMap_append,
    List.flatMap_append, ← word64_overflow32?, ← word64_overflow32?, ← word64_overflow32?]
  simp only [Zip64.centralData, zip64, Zip64.word32, Option.elim_none, List.append_nil,
    List.append_assoc]

private theorem needsZip64_iff (h : CentralHeader) : h.needsZip64 = true ↔ h.saturated ≠ [] := by
  have hvalue : ∀ n, (overflow32? n).isNone = true ↔ ¬marker32 ≤ n := by
    intro n
    rw [overflow32?]
    split
    case isTrue h => simp [h]
    case isFalse h => simp [h]
  rw [needsZip64, Bool.not_eq_true', ← Bool.not_eq_true, saturated, Ne, not_iff_not,
    List.filter_eq_nil_iff, Zip64.isEmpty]
  simp [zip64, hvalue, and_assoc]

/-- The Zip64 records that a reader finds in a central header. -/
theorem count_recordIds_allExtra (h : CentralHeader) :
    (recordIds h.allExtra).count Zip64.recordId =
      (if h.saturated = [] then 0 else 1) + (recordIds h.extra).count Zip64.recordId := by
  rw [allExtra]
  split
  case isTrue hneeds =>
    rw [if_neg (h.needsZip64_iff.1 hneeds)]
    dsimp only
    rw [Extra.recordIds_append _ h.length_centralData_zip64, List.count_cons_self, Nat.add_comm]
  case isFalse hneeds =>
    have hnone : h.saturated = [] := by
      by_contra hne
      exact hneeds (h.needsZip64_iff.2 hne)
    rw [if_pos hnone, Nat.zero_add]

private theorem firstRecord?_allExtra (h : CentralHeader) (hneeds : h.saturated ≠ []) :
    firstRecord? Zip64.recordId h.allExtra = some (h.saturated.flatMap (Bytes.toLE 8)) := by
  rw [allExtra, if_pos (h.needsZip64_iff.2 hneeds)]
  dsimp only
  rw [firstRecord?_append h.extra h.length_centralData_zip64, if_pos rfl, centralData_zip64]

end CentralHeader

/-! ### The records of written entries -/

variable {κ τ : Type} [Record κ] [Sink τ]

namespace Entry

variable {e : Entry κ} (reserved : Bool) (size compressedSize : UInt64)

omit [Record κ] in
private theorem isLeftover_ofSizes :
    (Extra.Field.zip64 (.ofSizes size compressedSize) : Extra.Field κ).isLeftover = false := rfl

private theorem leftoverLast_withSizes (hlast : e.extra.LeftoverLast) :
    (e.withSizes reserved size compressedSize).extra.LeftoverLast := by
  cases reserved with
  | true => exact hlast.add (isLeftover_ofSizes size compressedSize)
  | false => exact hlast.remove Zip64.recordId

/-- The Zip64 records that are left when the sizes have their place. -/
theorem countId_withSizes :
    (e.withSizes reserved size compressedSize).extra.countId Zip64.recordId =
      if reserved then max 1 (e.extra.countId Zip64.recordId)
      else e.extra.countId Zip64.recordId - 1 := by
  cases reserved with
  | true => exact e.extra.countId_add (isLeftover_ofSizes size compressedSize)
  | false => exact e.extra.countId_remove Zip64.recordId

private theorem leftovers_withSizes :
    (e.withSizes reserved size compressedSize).extra.leftovers = e.extra.leftovers := by
  cases reserved with
  | true => exact e.extra.leftovers_add (isLeftover_ofSizes size compressedSize)
  | false => exact e.extra.leftovers_remove Zip64.recordId

end Entry

namespace Prepared

variable {p : Prepared κ} {mode : Zip64Mode}

/-- An entry that is written leaves a block behind. -/
theorem exists_block_of_write [LawfulSink τ] {s t : τ} {base : Nat} {before : Bytes}
    {central : CentralHeader} (hs : LawfulSink.Holds s base before)
    (h : (p.write mode).outcome s = (.ok central, t)) :
    ∃ b : Block, b.central = central ∧ p.IsBlock mode (base + before.length) b ∧
      LawfulSink.Holds t base (before ++ b.bytes) := by
  obtain ⟨t', ht', hholds⟩ := (p.write_turns (τ := τ) mode _).run hs
  have houtcome := ht'.symm.trans h
  obtain rfl : t' = t := congrArg Prod.snd houtcome
  obtain ⟨b, hcentral, hbytes, hblock⟩ := exists_block_of_layout (congrArg Prod.fst houtcome)
  exact ⟨b, hcentral, hblock, hbytes ▸ hholds⟩

namespace IsBlock

variable {start : Nat} {b : Block}

/-- The Zip64 records that a reader finds in the local header of a block. -/
theorem count_recordIds_header (hb : p.IsBlock mode start b) (hlast : p.entry.extra.LeftoverLast) :
    (recordIds b.header.extra).count Zip64.recordId =
      (if mode.reserves p.entry then max 1 (p.entry.extra.countId Zip64.recordId)
        else p.entry.extra.countId Zip64.recordId - 1) +
      (recordIds (p.entry.extra.leftoverBytes .localHeader)).count Zip64.recordId := by
  obtain ⟨-, -, -, -, -, hextra⟩ := hb.header_fields
  have hfields := Entry.leftoverLast_withSizes (mode.reserves p.entry)
    (.ofNat b.central.digest.size) (.ofNat b.central.digest.compressedSize) hlast
  rw [Extra.count_recordIds_of_merge hfields hextra, Entry.countId_withSizes,
    FieldList.leftoverBytes, Entry.leftovers_withSizes]
  rfl

/-- The Zip64 records that a reader finds in the central header of a block. -/
theorem count_recordIds_central (hb : p.IsBlock mode start b)
    (hlast : p.entry.extra.LeftoverLast) :
    (recordIds b.central.allExtra).count Zip64.recordId =
      (if b.central.saturated = [] then 0 else 1) +
        ((p.entry.extra.countId Zip64.recordId - if mode.reserves p.entry then 1 else 2) +
          (recordIds (p.entry.extra.leftoverBytes .central)).count Zip64.recordId) := by
  obtain ⟨extra, hextra, hcentral⟩ := Entry.centralHeader_eq_ok_iff.1 hb.central_eq
  have hheader : b.central.extra = extra := congrArg CentralHeader.extra hcentral
  -- the record of the local header is taken away again, or one more that was there
  have hfields := Entry.leftoverLast_withSizes (mode.reserves p.entry) 0 0 hlast
  have hcount := Extra.count_recordIds_of_merge (hfields.remove Zip64.recordId) hextra
    Zip64.recordId
  have hleft : FieldList.leftoverBytes .central
      (FieldList.remove (p.entry.withSizes (mode.reserves p.entry) 0 0).extra Zip64.recordId) =
      p.entry.extra.leftoverBytes .central := by
    rw [FieldList.leftoverBytes, FieldList.leftovers_remove, Entry.leftovers_withSizes]
    rfl
  rw [FieldList.countId_remove, Entry.countId_withSizes, hleft] at hcount
  have hnumber : (if mode.reserves p.entry then max 1 (p.entry.extra.countId Zip64.recordId)
      else p.entry.extra.countId Zip64.recordId - 1) - 1 =
      p.entry.extra.countId Zip64.recordId - if mode.reserves p.entry then 1 else 2 := by
    cases mode.reserves p.entry with
    | true =>
      rw [if_pos rfl, if_pos rfl]
      omega
    | false => exact Nat.sub_sub ..
  rw [CentralHeader.count_recordIds_allExtra, hheader, hcount, hnumber]

end IsBlock

/-- Whatever entry is written, its local header has one Zip64 record if room is reserved and none
otherwise, and its central header has one if there are values that do not fit and none otherwise,
if and only if the entry had one such record at most and left-over bytes of it do not look like one.
The record of the central header has exactly the values that do not fit, in their order. -/
theorem zip64Records_iff [LawfulSink τ] {s t : τ} {base : Nat} {before : Bytes}
    {central : CentralHeader} (hlast : p.entry.extra.LeftoverLast)
    (hs : LawfulSink.Holds s base before) (h : (p.write mode).outcome s = (.ok central, t)) :
    ∃ b : Block, b.central = central ∧ p.IsBlock mode (base + before.length) b ∧
      LawfulSink.Holds t base (before ++ b.bytes) ∧
      (central.saturated ≠ [] → firstRecord? Zip64.recordId central.allExtra =
        some (central.saturated.flatMap (Bytes.toLE 8))) ∧
      ((recordIds b.header.extra).count Zip64.recordId =
            (if mode.reserves p.entry then 1 else 0) ∧
          (recordIds central.allExtra).count Zip64.recordId =
            (if central.saturated = [] then 0 else 1) ↔
        p.entry.extra.countId Zip64.recordId ≤ 1 ∧
          ∀ place, Zip64.recordId ∉ recordIds (p.entry.extra.leftoverBytes place)) := by
  obtain ⟨b, rfl, hblock, hholds⟩ := exists_block_of_write hs h
  have hlocal := hblock.count_recordIds_header hlast
  have hcentral := hblock.count_recordIds_central hlast
  have hplaces : (∀ place, Zip64.recordId ∉ recordIds (p.entry.extra.leftoverBytes place)) ↔
      (recordIds (p.entry.extra.leftoverBytes .localHeader)).count Zip64.recordId = 0 ∧
        (recordIds (p.entry.extra.leftoverBytes .central)).count Zip64.recordId = 0 := by
    rw [List.count_eq_zero, List.count_eq_zero]
    constructor
    · exact fun hnone => ⟨hnone .localHeader, hnone .central⟩
    · rintro ⟨hlocal, hcentral⟩ place
      cases place with
      | localHeader => exact hlocal
      | central => exact hcentral
  refine ⟨b, rfl, hblock, hholds, b.central.firstRecord?_allExtra, ?_⟩
  rw [hlocal, hcentral, hplaces]
  cases mode.reserves p.entry with
  | true =>
    simp only [if_true]
    omega
  | false =>
    simp only [Bool.false_eq_true, if_false]
    omega

/-- A file whose extra fields were set from a stream, and three bytes that are said to be compressed
to as many as given. -/
def sampleStored (stream : Bytes) (compressedSize : Nat) : Prepared Empty where
  entry := ((Entry.file "a").setLocalExtra .builtin stream).2
  text := { name := [0x61], comment := [], encoding := .utf8 .strict }
  data := { pieces := [[1], [2, 3]], ending := .ok { checksum := 0, size := 3, compressedSize } }

private theorem leftoverLast_sampleStored (stream : Bytes) (compressedSize : Nat) :
    (sampleStored stream compressedSize).entry.extra.LeftoverLast := by
  have hempty : (Entry.file "a" : Entry Empty).Reached fun _ => True := .empty rfl
  exact Entry.leftoverLast_of_reached (hempty.setLocal trivial)

/-- The records of the sample are those of the stream. -/
theorem countId_sampleStored {stream : Bytes} (compressedSize : Nat)
    (h : ((Entry.file "a" : Entry Empty).setLocalExtra .builtin stream).1 = .ok ()) :
    (sampleStored stream compressedSize).entry.extra.countId Zip64.recordId =
        (recordIds stream).count Zip64.recordId ∧
      ∀ place, recordIds ((sampleStored stream compressedSize).entry.extra.leftoverBytes place) =
        [] :=
  Entry.countId_of_setLocalExtra (Prod.ext h rfl) Zip64.recordId

/-- A stream with a Zip64 record behind another record, and with a byte left over. -/
def sampleOnce : Bytes :=
  [0x34, 0x12, 1, 0, 7, 1, 0, 0, 0, 9]

/-- The sample with room for its sizes, written from a position on that four bytes do not hold. -/
def sampleOnceOutcome : Outcome ContinuedSink CentralHeader :=
  ((sampleStored sampleOnce 0x100000000).write .always).outcome { base := marker32 }

/-- Each header has one Zip64 record, the central one with the values that do not fit. -/
theorem zip64Records_iff_sampleOnce :
    ∃ b : Block, sampleOnceOutcome.1 = .ok b.central ∧
      LawfulSink.Holds sampleOnceOutcome.2 marker32 b.bytes ∧
      (recordIds b.header.extra).count Zip64.recordId = 1 ∧
      (recordIds b.central.allExtra).count Zip64.recordId = 1 ∧
      firstRecord? Zip64.recordId b.central.allExtra =
        some (Bytes.toLE 8 0x100000000 ++ Bytes.toLE 8 0xFFFFFFFF) := by
  have hset : ((Entry.file "a" : Entry Empty).setLocalExtra .builtin sampleOnce).1 = .ok () := by
    decide +kernel
  obtain ⟨hcount, hnone⟩ := countId_sampleStored 0x100000000 hset
  have hone : (sampleStored sampleOnce 0x100000000).entry.extra.countId Zip64.recordId ≤ 1 :=
    Nat.le_of_eq (hcount.trans (by decide +kernel))
  have hplaces : ∀ place, Zip64.recordId ∉
      recordIds ((sampleStored sampleOnce 0x100000000).entry.extra.leftoverBytes place) := by
    intro place
    rw [hnone place]
    exact List.not_mem_nil
  have hreserves : Zip64Mode.always.reserves (sampleStored sampleOnce 0x100000000).entry = true := by
    decide +kernel
  have hresult : CentralHeader.saturated <$> sampleOnceOutcome.1 =
      .ok [0x100000000, 0xFFFFFFFF] := by decide +kernel
  obtain ⟨central, hcentral, hsaturated⟩ := map_eq_ok_iff.1 hresult
  obtain ⟨b, rfl, -, hholds, hfirst, hiff⟩ := zip64Records_iff
    (leftoverLast_sampleStored sampleOnce 0x100000000)
    (ContinuedSink.holds_tail { base := marker32 }) (Prod.ext hcentral rfl)
  rw [hsaturated] at hfirst hiff
  rw [hreserves] at hiff
  obtain ⟨hlocal, hcentralCount⟩ := hiff.2 ⟨hone, hplaces⟩
  exact ⟨b, hcentral, hholds, hlocal, hcentralCount, hfirst nofun⟩

/-- A stream with three Zip64 records. -/
def sampleRepeated : Bytes :=
  [1, 0, 0, 0, 1, 0, 0, 0, 1, 0, 0, 0]

/-- The sample without room for sizes, and with values that all fit. -/
def sampleRepeatedOutcome : Outcome ContinuedSink CentralHeader :=
  ((sampleStored sampleRepeated 3).write .asNeeded).outcome { base := 0 }

/-- Two of the three records stay in the local header and one in the central header. -/
theorem zip64Records_sampleRepeated :
    ∃ b : Block, sampleRepeatedOutcome.1 = .ok b.central ∧
      LawfulSink.Holds sampleRepeatedOutcome.2 0 b.bytes ∧
      Zip64Mode.asNeeded.reserves (sampleStored sampleRepeated 3).entry = false ∧
      (recordIds b.header.extra).count Zip64.recordId = 2 ∧
      b.central.saturated = [] ∧ (recordIds b.central.allExtra).count Zip64.recordId = 1 := by
  have hset : ((Entry.file "a" : Entry Empty).setLocalExtra .builtin sampleRepeated).1 =
      .ok () := by decide +kernel
  obtain ⟨hcount, hnone⟩ := countId_sampleStored 3 hset
  have hthree : (recordIds sampleRepeated).count Zip64.recordId = 3 := by decide +kernel
  have hreserves : Zip64Mode.asNeeded.reserves (sampleStored sampleRepeated 3).entry = false := by
    decide +kernel
  have hresult : CentralHeader.saturated <$> sampleRepeatedOutcome.1 = .ok [] := by decide +kernel
  obtain ⟨central, hcentral, hsaturated⟩ := map_eq_ok_iff.1 hresult
  obtain ⟨b, rfl, hblock, hholds⟩ := exists_block_of_write
    (ContinuedSink.holds_tail { base := 0 }) (Prod.ext hcentral rfl)
  have hlast := leftoverLast_sampleStored sampleRepeated 3
  have hlocal := hblock.count_recordIds_header hlast
  have hcentralCount := hblock.count_recordIds_central hlast
  rw [hreserves, hcount, hthree, hnone] at hlocal
  rw [hsaturated, hreserves, hcount, hthree, hnone] at hcentralCount
  exact ⟨b, hcentral, hholds, hreserves, hlocal, hsaturated, hcentralCount⟩

end Prepared

end ZipArchive
