import ZipArchive.Proofs.Extra.Records
import ZipArchive.Proofs.Forall2

/-!
# Streams are written as they are read

A stream is a row of records, with bytes behind them that are no record. When it is read, each
record becomes a field of its id, which is written as that record again. Of a request for alignment
only the word is kept, so that the stream as a whole is written as it was read but for these:
`merge_parse`. A registry that knows no id reads every stream, and changes nothing.
-/

namespace ZipArchive.Extra

open RawRecord (stream)

variable {κ : Type} [Record κ] {place : Place}

/-! ### The fields that records are read with -/

/-- Records with an id can be read with the field. -/
structure Field.Receives (f : Field κ) (id : UInt16) : Prop where
  isOwn : f.IsOwn
  isLeftover_eq : f.isLeftover = false
  id_eq : f.id = id

/-- Every id has a field that its records can be read with, and the field of alignment requests is
that of their id alone. -/
theorem Registry.create_builtin (place : Place) (id : UInt16) (payload : Bytes) :
    ((Registry.builtin : Registry κ).create id).Receives id ∧
      ((Registry.builtin : Registry κ).create id).kept place payload =
        if id = Alignment.recordId then Alignment.kept place payload else payload := by
  simp only [create, builtin]
  split
  -- the last case is that of all ids which are not listed
  case h_13 _ _ _ _ _ _ hid _ _ _ _ _ _ => exact ⟨⟨trivial, rfl, rfl⟩, (if_neg hid).symm⟩
  all_goals exact ⟨⟨trivial, rfl, rfl⟩, rfl⟩

theorem Registry.receives_builtin (id : UInt16) :
    ((Registry.builtin : Registry κ).create id).Receives id :=
  (create_builtin .localHeader id []).1

private theorem Registry.receives_empty (id : UInt16) :
    ((Registry.empty : Registry κ).create id).Receives id :=
  ⟨trivial, rfl, rfl⟩

omit [Record κ] in
theorem Field.length_kept_le (place : Place) (f : Field κ) (payload : Bytes) :
    (f.kept place payload).length ≤ payload.length := by
  rw [kept.eq_def]
  split
  case h_1 => exact Alignment.length_kept_le place payload
  case h_2 => exact Nat.le_refl _

/-! ### The records that are written -/

namespace RawRecord

/-- The record that is written of one that was read from a registry. -/
def rewritten (reg : Registry κ) (place : Place) (r : RawRecord) : RawRecord where
  id := r.id
  payload := (reg.create r.id).kept place r.payload
  length_le := ((reg.create r.id).length_kept_le place r.payload).trans r.length_le

/-- The record with no more of a request for alignment than is kept. -/
def settled (place : Place) (r : RawRecord) : RawRecord :=
  if r.id = Alignment.recordId then
    { id := r.id
      payload := Alignment.kept place r.payload
      length_le := (Alignment.length_kept_le place r.payload).trans r.length_le }
  else r

omit [Record κ] in
theorem id_settled (place : Place) (r : RawRecord) : (r.settled place).id = r.id := by
  rw [settled]
  split
  · rfl
  · rfl

theorem rewritten_builtin (place : Place) :
    rewritten (Registry.builtin : Registry κ) place = settled place := by
  funext r
  have hkept := (Registry.create_builtin (κ := κ) place r.id r.payload).2
  rw [settled]
  split
  case isTrue hid =>
    rw [if_pos hid] at hkept
    simp only [rewritten, hkept]
  case isFalse hid =>
    rw [if_neg hid] at hkept
    simp only [rewritten, hkept]

omit [Record κ] in
private theorem rewritten_empty (place : Place) :
    rewritten (Registry.empty : Registry κ) place = fun r => r := rfl

/-- A record is read as a field of its id. -/
theorem id_eq_of_readsTo {reg : Registry κ} {r : RawRecord} {g : Field κ}
    (hreg : (reg.create r.id).Receives r.id)
    (h : (reg.create r.id).ReadsTo r.payload place g) : g.id = r.id :=
  h.id_eq.trans hreg.id_eq

theorem map_id_eq_of_forall₂ {reg : Registry κ} (hreg : ∀ id, (reg.create id).Receives id)
    {records : List RawRecord} {own : List (Field κ)}
    (h : List.Forall₂ (fun r g => (reg.create r.id).ReadsTo r.payload place g) records own) :
    own.map Field.id = records.map RawRecord.id :=
  map_eq_of_forall₂ (h.imp fun r _ hread => id_eq_of_readsTo (hreg r.id) hread)

/-- A record that was read is written, as far as it is kept. -/
theorem toStream_of_readsTo {reg : Registry κ} {r : RawRecord} {g : Field κ}
    (hreg : (reg.create r.id).Receives r.id)
    (h : (reg.create r.id).ReadsTo r.payload place g) :
    g.toStream place = .ok (r.rewritten reg place).bytes := by
  have hleftover : g.isLeftover = false := h.isLeftover_eq.trans hreg.isLeftover_eq
  refine (Field.toStream_eq_ok_iff hleftover).2 ?_
  rw [h.data_eq, id_eq_of_readsTo hreg h]
  exact ⟨(r.rewritten reg place).length_le, rfl⟩

/-- Records that were read are written in a row. -/
theorem merge_of_forall₂ {reg : Registry κ} (hreg : ∀ id, (reg.create id).Receives id)
    {records : List RawRecord} {own : List (Field κ)}
    (h : List.Forall₂ (fun r g => (reg.create r.id).ReadsTo r.payload place g) records own) :
    merge place own = .ok (stream (records.map (rewritten reg place))) := by
  induction h with
  | nil => rfl
  | cons hread _ ih =>
    exact merge_cons_eq_ok_iff.2 ⟨_, _, toStream_of_readsTo (hreg _) hread, ih, rfl⟩

end RawRecord

/-! ### Streams -/

/-- Bytes behind the records are written as they are. -/
theorem merge_endedBy {own : List (Field κ)} {bs : Bytes} (h : merge place own = .ok bs)
    (last? : Option Leftover) :
    merge place (endedBy own last?) = .ok (bs ++ last?.elim [] (Record.data place)) := by
  refine merge_append_eq_ok_iff.2 ⟨bs, last?.elim [] (Record.data place), h, ?_, rfl⟩
  cases last? with
  | none => rfl
  | some l =>
    exact merge_cons_eq_ok_iff.2
      ⟨Record.data place l, [], Field.toStream_leftover l, rfl, (List.append_nil _).symm⟩

theorem data_leftover? (place : Place) (tail : Bytes) :
    (leftover? place tail).elim [] (Record.data place) = tail := by
  cases tail with
  | nil => rfl
  | cons b tail => cases place <;> rfl

/-- A stream that was read is written with each of its records as far as it is kept. -/
theorem Registry.merge_of_parse {reg : Registry κ} (hreg : ∀ id, (reg.create id).Receives id)
    {remainder : Remainder} {records : List RawRecord} {tail : Bytes}
    (htail : ¬StartsWithRecord tail) {fields : List (Field κ)}
    (h : reg.parse place remainder (stream records ++ tail) = .ok fields) :
    merge place fields = .ok (stream (records.map (RawRecord.rewritten reg place)) ++ tail) := by
  obtain ⟨own, rfl, hown⟩ := reg.forall₂_of_parse (fun id => (hreg id).isOwn) htail h
  rw [merge_endedBy (RawRecord.merge_of_forall₂ hreg hown), data_leftover?]

private theorem Field.exists_read_unrecognized (place : Place) (o : Opaque) (payload : Bytes) :
    ∃ p, (Field.unrecognized o : Field κ).read place payload = (.ok (), .unrecognized p) := by
  cases place with
  | localHeader =>
    exact ⟨o.setLocal payload,
      congrArg (Outcome.mapState Field.unrecognized) (inSpan_self o payload _)⟩
  | central =>
    exact ⟨o.withCentral payload,
      congrArg (Outcome.mapState Field.unrecognized) (inSpan_self o payload _)⟩

/-- Without known ids, there is nothing in a stream that could be refused. -/
theorem Registry.exists_parse_empty (place : Place) (records : List RawRecord) {tail : Bytes}
    (htail : ¬StartsWithRecord tail) :
    ∃ fields, (Registry.empty : Registry κ).parse place .keep (stream records ++ tail) =
      .ok fields := by
  have hread : ∀ r ∈ records, ∃ g, r.read (Registry.empty : Registry κ) place = .ok g := by
    intro r _
    obtain ⟨p, hp⟩ := Field.exists_read_unrecognized (κ := κ) place { id := r.id } r.payload
    exact ⟨.unrecognized p, RawRecord.read_eq_ok_iff.2 hp⟩
  obtain ⟨own, hown⟩ := exists_mapM_eq_ok hread
  rw [parse_stream (fun id => (receives_empty id).isOwn.isBuiltin) .keep records htail, hown]
  cases tail with
  | nil => exact ⟨own, rfl⟩
  | cons b tail => exact ⟨_, rfl⟩

/-- A stream is written as it was read. With the records of this library, wherever a stream is read,
and whether bytes behind its records are refused or kept, it is written as the same records in the
same order with the same bytes behind them, but for what is not kept of requests for alignment. With
no record known, every stream is read, and written as it is. -/
theorem merge_parse (place : Place) (d : Bytes) :
    ∃ records tail, d = stream records ++ tail ∧ ¬StartsWithRecord tail ∧
      (∀ remainder fields,
        (Registry.builtin : Registry κ).parse place remainder d = .ok fields →
          merge place fields = .ok (stream (records.map (RawRecord.settled place)) ++ tail)) ∧
      ∃ fields, (Registry.empty : Registry κ).parse place .keep d = .ok fields ∧
        merge place fields = .ok d := by
  obtain ⟨records, tail, rfl, htail⟩ := RawRecord.exists_records d
  refine ⟨records, tail, rfl, htail, fun remainder fields h => ?_, ?_⟩
  · have hmerge := Registry.merge_of_parse Registry.receives_builtin htail h
    rwa [RawRecord.rewritten_builtin] at hmerge
  · obtain ⟨fields, hfields⟩ := Registry.exists_parse_empty (κ := κ) place records htail
    have hmerge := Registry.merge_of_parse Registry.receives_empty htail hfields
    rw [RawRecord.rewritten_empty, List.map_id'] at hmerge
    exact ⟨fields, hfields, hmerge⟩

/-- A timestamp with reserved flags, a request for alignment with bytes behind its word, an unknown
id, and a record that is cut off. -/
def sampleStream : Bytes :=
  [0x55, 0x54, 5, 0, 0xF9, 1, 2, 3, 4, 0x1E, 0xA1, 4, 0, 2, 0x80, 7, 7, 0x99, 0x99, 1, 0, 5,
    0x55, 0x54, 9, 0, 1]

/-- Only the two bytes behind the word are not written again. -/
theorem merge_parse_sampleStream :
    ∃ fields, (Registry.builtin : Registry Empty).parse .central .keep sampleStream = .ok fields ∧
      (∃ records tail, sampleStream = stream records ++ tail ∧
        merge .central fields = .ok (stream (records.map (RawRecord.settled .central)) ++ tail)) ∧
      merge .central fields =
        .ok [0x55, 0x54, 5, 0, 0xF9, 1, 2, 3, 4, 0x1E, 0xA1, 2, 0, 2, 0x80, 0x99, 0x99, 1, 0, 5,
          0x55, 0x54, 9, 0, 1] := by
  have hparse : (Registry.builtin : Registry Empty).parse .central .keep sampleStream =
      .ok [.timestamp { centralFlags := 0xF9, modify? := some 0x04030201 },
        .alignment { alignment := 2, allowMethodChange := true, alignment_le := by decide },
        .unrecognized { id := 0x9999, localCopy := [5], centralCopy? := some [5] },
        .leftover { centralCopy? := some [0x55, 0x54, 9, 0, 1] }] := by decide +kernel
  obtain ⟨records, tail, hsample, -, hmerge, -⟩ := merge_parse (κ := Empty) .central sampleStream
  exact ⟨_, hparse, ⟨records, tail, hsample, hmerge .keep _ hparse⟩, by decide +kernel⟩

end ZipArchive.Extra
