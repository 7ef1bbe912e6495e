import ZipArchive.Proofs.Extra.Payloads
import ZipArchive.Proofs.Extra.Replay

/-!
# The records of a stream

A stream is a row of records and bytes behind them that start with no record: `exists_records`. A
registry whose fields look at nothing but their payload reads the records one by one, and what it
makes of each does not depend on the others: `Registry.parse_stream`.
-/

namespace ZipArchive.Extra

/-- A record takes four bytes at least. -/
theorem not_startsWithRecord_of_length_lt {bs : Bytes} (h : bs.length < 4) :
    ¬StartsWithRecord bs := by
  rintro ⟨_, _, _, _, _, rfl, -⟩
  simp only [List.length_cons] at h
  omega

theorem not_startsWithRecord_nil : ¬StartsWithRecord [] :=
  not_startsWithRecord_of_length_lt (Nat.succ_pos 3)

/-- A record as it stands in a stream. -/
structure RawRecord where
  /-- The id. -/
  id : UInt16
  /-- The payload. -/
  payload : Bytes
  length_le : payload.length ≤ 65535

namespace RawRecord

/-- The bytes of a record: id, length of the payload and payload. -/
def bytes (r : RawRecord) : Bytes :=
  bytes16 r.id ++ Bytes.toLE 2 r.payload.length ++ r.payload

/-- The bytes of records in a row. -/
def stream (records : List RawRecord) : Bytes :=
  records.flatMap bytes

@[simp] theorem stream_cons (r : RawRecord) (records : List RawRecord) :
    stream (r :: records) = r.bytes ++ stream records := rfl

/-- Bytes that start with a record. -/
theorem exists_bytes_append {bs : Bytes} (h : StartsWithRecord bs) :
    ∃ (r : RawRecord) (rest : Bytes), bs = r.bytes ++ rest ∧ rest.length < bs.length := by
  obtain ⟨i₀, i₁, n₀, n₁, rest, rfl, hlength⟩ := h
  have hbound : Bytes.ofLE [n₀, n₁] < 256 ^ 2 := Bytes.ofLE_lt [n₀, n₁]
  have htake : (rest.take (Bytes.ofLE [n₀, n₁])).length = Bytes.ofLE [n₀, n₁] := by
    rw [List.length_take]
    omega
  refine ⟨⟨UInt16.ofNat (Bytes.ofLE [i₀, i₁]), rest.take (Bytes.ofLE [n₀, n₁]), by omega⟩,
    rest.drop (Bytes.ofLE [n₀, n₁]), ?_, ?_⟩
  · have hid : Bytes.toLE 2 (Bytes.ofLE [i₀, i₁]) = [i₀, i₁] := Bytes.toLE_ofLE_of_length rfl
    have hsize : Bytes.toLE 2 (Bytes.ofLE [n₀, n₁]) = [n₀, n₁] := Bytes.toLE_ofLE_of_length rfl
    simp only [bytes, Bytes.bytes16_ofNat, htake, hid, hsize, List.append_assoc,
      List.take_append_drop]
    rfl
  · simp only [List.length_drop, List.length_cons]
    omega

/-- Every stream is a row of records with bytes behind them that start with no record. -/
theorem exists_records (d : Bytes) :
    ∃ (records : List RawRecord) (tail : Bytes),
      d = stream records ++ tail ∧ ¬StartsWithRecord tail := by
  by_cases h : StartsWithRecord d
  · obtain ⟨r, rest, hd, hshorter⟩ := exists_bytes_append h
    obtain ⟨records, tail, hrest, htail⟩ := exists_records rest
    exact ⟨r :: records, tail, by rw [hd, hrest, stream_cons, List.append_assoc], htail⟩
  · exact ⟨[], d, rfl, h⟩
termination_by d.length

variable {κ : Type} [Record κ] {place : Place}

/-- The field that a registry reads from a record. -/
def read (reg : Registry κ) (place : Place) (r : RawRecord) : Except Fault (Field κ) :=
  match (reg.create r.id).read place r.payload with
  | (.ok (), g) => .ok g
  | (.error e, _) => .error e

theorem read_eq_ok_iff {reg : Registry κ} {r : RawRecord} {g : Field κ} :
    r.read reg place = .ok g ↔ (reg.create r.id).read place r.payload = (.ok (), g) := by
  rw [read]
  split
  case h_1 g' hread => rw [hread, Except.ok.injEq, Prod.mk.injEq, and_iff_right rfl]
  case h_2 e g' hread => simp [hread]

/-- Where records stand in a buffer, each is read as it is by itself. -/
theorem mapM_fill_eq (place : Place) {reg : Registry κ} (hreg : ∀ id, (reg.create id).IsBuiltin)
    (records : List RawRecord) {tail : Bytes} (htail : ¬StartsWithRecord tail)
    {buf : Array UInt8} {front : Bytes} (hbuf : buf.toList = front ++ (stream records ++ tail)) :
    ∃ slots', slots front.length (stream records ++ tail) = (slots', tail) ∧
      slots'.mapM (fun slot => slot.fill place buf (reg.create slot.id)) =
        records.mapM (read reg place) := by
  -- by induction on the records, `front` being the bytes before them
  induction records generalizing front with
  | nil => exact ⟨[], slots_of_not_startsWithRecord htail _, rfl⟩
  | cons r records ih =>
    have hheader : (front ++ (bytes16 r.id ++ Bytes.toLE 2 r.payload.length)).length =
        front.length + 4 := by
      rw [List.length_append, List.length_append, Bytes.length_toLE, Bytes.length_toLE]
    have hrecord : (front ++ (bytes16 r.id ++ Bytes.toLE 2 r.payload.length) ++
        r.payload).length = front.length + 4 + r.payload.length := by
      rw [List.length_append, hheader]
    have hpayload : buf.toList = front ++ (bytes16 r.id ++ Bytes.toLE 2 r.payload.length) ++
        (r.payload ++ (stream records ++ tail)) := by
      rw [hbuf, stream_cons, bytes]
      simp only [List.append_assoc]
    have hspan := span_append hpayload
    rw [← List.append_assoc] at hpayload
    obtain ⟨slots', hslots, hfields⟩ := ih hpayload
    rw [hrecord] at hslots
    rw [hheader] at hspan
    refine ⟨{ id := r.id, offset := front.length + 4, length := r.payload.length } :: slots',
      ?_, ?_⟩
    · rw [stream_cons, List.append_assoc, bytes, slots_append _ _ r.length_le, hslots]
    · have hfill : Slot.fill place buf
          { id := r.id, offset := front.length + 4, length := r.payload.length }
          (reg.create r.id) = r.read reg place := by
        rw [Slot.fill, Field.parse_of_span (hreg r.id) hspan]
        rfl
      rw [List.mapM_cons, List.mapM_cons, hfill, hfields]

end RawRecord

open RawRecord (stream)

/-- The ids of the records that a stream starts with. -/
def recordIds (bs : Bytes) : List UInt16 :=
  (slots 0 bs).1.map Slot.id

/-- The ids of records with bytes behind them that start with no record. -/
theorem recordIds_stream (records : List RawRecord) {tail : Bytes}
    (htail : ¬StartsWithRecord tail) :
    recordIds (stream records ++ tail) = records.map RawRecord.id := by
  have hslots : ∀ start, (slots start (stream records ++ tail)).1.map Slot.id =
      records.map RawRecord.id := by
    induction records with
    | nil =>
      intro start
      exact congrArg (List.map Slot.id ∘ Prod.fst) (slots_of_not_startsWithRecord htail start)
    | cons r records ih =>
      intro start
      rw [RawRecord.stream_cons, List.append_assoc, RawRecord.bytes,
        slots_append start _ r.length_le, List.map_cons, List.map_cons, ih]
  exact hslots 0

/-- A record comes before those behind it. -/
theorem recordIds_append {id : UInt16} {payload : Bytes} (rest : Bytes)
    (h : payload.length ≤ 65535) :
    recordIds (bytes16 id ++ Bytes.toLE 2 payload.length ++ payload ++ rest) =
      id :: recordIds rest := by
  obtain ⟨records, tail, rfl, htail⟩ := RawRecord.exists_records rest
  have hfirst : bytes16 id ++ Bytes.toLE 2 payload.length ++ payload ++ (stream records ++ tail) =
      stream (⟨id, payload, h⟩ :: records) ++ tail :=
    (List.append_assoc ..).symm
  rw [hfirst, recordIds_stream _ htail, recordIds_stream _ htail, List.map_cons]

theorem recordIds_of_not_startsWithRecord {bs : Bytes} (h : ¬StartsWithRecord bs) :
    recordIds bs = [] :=
  recordIds_stream [] h

variable {κ : Type} [Record κ] {place : Place}

/-- Records with bytes behind them are read one by one, and what is behind them is refused or kept,
if there is anything. -/
theorem Registry.parse_stream {reg : Registry κ} (hreg : ∀ id, (reg.create id).IsBuiltin)
    (remainder : Remainder) (records : List RawRecord) {tail : Bytes}
    (htail : ¬StartsWithRecord tail) :
    reg.parse place remainder (stream records ++ tail) = (do
      let fields ← records.mapM (RawRecord.read reg place)
      if tail.isEmpty then return fields
      else
        match remainder with
        | .refuse => throw (.unparseableTrailingBytes (stream records).length tail.length)
        | .keep => return fields ++ [.leftover (.ofBytes place tail)]) := by
  have hbuf : (stream records ++ tail).toArray.toList = [] ++ (stream records ++ tail) := rfl
  obtain ⟨slots', hslots, hfields⟩ := RawRecord.mapM_fill_eq place hreg records htail hbuf
  rw [List.length_nil] at hslots
  have hlength : (stream records ++ tail).length - tail.length = (stream records).length := by
    rw [List.length_append, Nat.add_sub_cancel]
  rw [parse, hslots]
  cases remainder with
  | refuse =>
    dsimp only
    rw [hfields, hlength]
  | keep =>
    dsimp only
    rw [hfields]

/-- Records with nothing behind them are read one by one. -/
theorem Registry.parse_records {reg : Registry κ} (hreg : ∀ id, (reg.create id).IsBuiltin)
    (remainder : Remainder) (records : List RawRecord) :
    reg.parse place remainder (stream records) = records.mapM (RawRecord.read reg place) := by
  rw [← List.append_nil (stream records),
    parse_stream hreg remainder records not_startsWithRecord_nil]
  exact bind_pure _

/-- Left-over bytes of a stream, if there are any. -/
def leftover? (place : Place) (tail : Bytes) : Option Leftover :=
  if tail.isEmpty then none else some (.ofBytes place tail)

/-- A stream that is read is read as one field for each record, and one for the bytes behind
them. -/
theorem Registry.forall₂_of_parse {reg : Registry κ} (hreg : ∀ id, (reg.create id).IsOwn)
    {remainder : Remainder} {records : List RawRecord} {tail : Bytes}
    (htail : ¬StartsWithRecord tail) {fields : List (Field κ)}
    (h : reg.parse place remainder (stream records ++ tail) = .ok fields) :
    ∃ own, fields = endedBy own (leftover? place tail) ∧
      List.Forall₂ (fun r g => (reg.create r.id).ReadsTo r.payload place g) records own := by
  rw [parse_stream (fun id => (hreg id).isBuiltin) remainder records htail] at h
  obtain ⟨own, hown, h⟩ := bind_eq_ok_iff.1 h
  refine ⟨own, ?_, (mapM_eq_ok_iff.1 hown).imp fun r g hg => ?_⟩
  · rw [leftover?, endedBy]
    split at h
    case isTrue hempty =>
      obtain rfl := Except.ok.inj h
      rw [if_pos hempty]
      exact (List.append_nil _).symm
    case isFalse hrest =>
      rw [if_neg hrest]
      cases remainder with
      | refuse => cases h
      | keep => exact (Except.ok.inj h).symm
  · exact Field.readsTo_of_read (hreg r.id) (RawRecord.read_eq_ok_iff.1 hg)

end ZipArchive.Extra
