import ZipArchive.Proofs.Extra.MergeDistinct
import ZipArchive.Proofs.Extra.OrderedMap

/-!
# Records of one header in the other

A record that was read from one of the headers of an entry has a payload for the other one too, and
that payload can be read there: `Field.wellFormed_of_forall₂`. So whatever stream is accepted
from one header, its records are written for the other as a stream that is accepted there, with the
same ids in the same order: `parse_merge_other`. Bytes behind the records of a local header stand
behind them in the central directory as well, while those of the central directory have no place in
a local header: `FieldList.carried`.
-/

namespace ZipArchive.Extra

open RawRecord (stream)

variable {κ : Type}

/-- The other one of the two headers. -/
def Place.other : Place → Place
  | .localHeader => .central
  | .central => .localHeader

/-- The fields with bytes in the other header, of those that were read from the header. -/
def FieldList.carried (place : Place) (fields : FieldList κ) : FieldList κ :=
  match place with
  | .localHeader => fields
  | .central => fields.records

/-! ### One record -/

/-- Every record to start from is well-formed. -/
theorem Registry.wellFormed_create (id : UInt16) :
    ((builtin : Registry κ).create id).WellFormed := by
  cases htemplate : (builtin : Registry κ).template? id with
  | none =>
    rw [create, htemplate]
    exact .inl htemplate
  | some template =>
    rw [create, htemplate, Option.getD_some]
    simp only [builtin] at htemplate
    split at htemplate
    case h_13 => cases htemplate
    all_goals obtain rfl := Option.some.inj htemplate
    case h_2 => exact fun hflag => absurd rfl hflag
    case h_3 => exact Ownership.wellFormed_ofIds 1000 1000
    case h_8 | h_9 | h_10 | h_11 | h_12 => exact .inr rfl
    all_goals trivial

namespace Field

variable {place : Place} {payload : Bytes} {f g : Field κ}

/-- Reading a payload of either header keeps a record well-formed. -/
theorem WellFormed.of_readsTo (hf : f.WellFormed) (h : ReadsTo payload place f g) :
    g.WellFormed := by
  cases h with
  | timestampLocal h => exact Timestamp.wellFormed_of_ofLocal h
  | timestampCentral h => exact Timestamp.wellFormed_of_withCentral h
  | ownershipLocal h => exact Ownership.wellFormed_of_withLocal h
  | certificateCentral o =>
    rw [WellFormed, ReadsTo.id_withCentral]
    exact hf
  | unrecognizedCentral o =>
    rw [WellFormed, ReadsTo.id_withCentral]
    exact hf
  | _ => exact hf

variable [Record κ]

/-- Every record of a header is well-formed, and the payload that it has for the other header is
short enough to be written. -/
theorem wellFormed_of_forall₂ {records : List RawRecord} {own : List (Field κ)}
    (h : List.Forall₂ (fun r g => ((Registry.builtin : Registry κ).create r.id).ReadsTo r.payload
      place g) records own) :
    ∀ g ∈ own, g.WellFormed ∧ (g.data place.other).length ≤ 65535 := by
  intro g hg
  obtain ⟨r, -, hread⟩ := exists_of_mem_forall₂ h hg
  refine ⟨(Registry.wellFormed_create r.id).of_readsTo hread, ?_⟩
  cases place with
  | localHeader =>
    exact hread.length_centralData_le r.length_le (Registry.length_centralData_create_le r.id)
  | central =>
    exact hread.length_localData_le r.length_le (Registry.length_localData_create_le r.id)

end Field

/-! ### Streams -/

variable [Record κ]

/-- Records alone are read as they are written, whatever is done about bytes behind them. -/
theorem parse_of_replays {place : Place} {fields parsed : List (Field κ)}
    (h : List.Forall₂ (Field.Replays place) fields parsed) {bs : Bytes}
    (hmerge : merge place fields = .ok bs) (remainder : Remainder) :
    (Registry.builtin : Registry κ).parse place remainder bs = .ok parsed := by
  have hbuf : bs.toArray.toList = [] ++ (bs ++ []) := (List.append_nil bs).symm
  obtain ⟨records, hslots, hrecords⟩ := mapM_fill_eq_ok h hmerge not_startsWithRecord_nil hbuf
  rw [List.append_nil, List.length_nil] at hslots
  rw [Registry.parse, hslots]
  dsimp only
  rw [hrecords]
  rfl

/-- Where bytes behind the records are refused, there are none. -/
theorem Registry.eq_nil_of_parse_refuse {reg : Registry κ} (hreg : ∀ id, (reg.create id).IsOwn)
    {place : Place} {records : List RawRecord} {tail : Bytes} (htail : ¬StartsWithRecord tail)
    {fields : List (Field κ)}
    (h : reg.parse place .refuse (stream records ++ tail) = .ok fields) : tail = [] := by
  rw [parse_stream (fun id => (hreg id).isBuiltin) .refuse records htail] at h
  obtain ⟨own, -, h⟩ := bind_eq_ok_iff.1 h
  split at h
  case isTrue hempty => exact List.isEmpty_iff.1 hempty
  case isFalse => cases h

/-- Either header gives a valid other one. Whatever stream is accepted from a header, all its fields
can be written for the other header, and what is written is accepted there. It is read as fields
with the same ids in the same order, bytes that form no record being among them as before, but for
such bytes of the central directory: these leave nothing in the local header. -/
theorem parse_merge_other (place : Place) (remainder : Remainder) {d : Bytes} {fields : FieldList κ}
    (h : (Registry.builtin : Registry κ).parse place remainder d = .ok fields) :
    ∃ bs parsed, merge place.other fields = .ok bs ∧
      merge place.other (fields.carried place) = .ok bs ∧
      (Registry.builtin : Registry κ).parse place.other remainder bs = .ok parsed ∧
      parsed.map Field.id = (fields.carried place).map Field.id ∧
      parsed.map Field.isLeftover = (fields.carried place).map Field.isLeftover := by
  have hreg : ∀ id, ((Registry.builtin : Registry κ).create id).IsOwn := fun id =>
    (Registry.receives_builtin id).isOwn
  obtain ⟨records, tail, rfl, htail⟩ := RawRecord.exists_records d
  obtain ⟨own, rfl, hown⟩ := Registry.forall₂_of_parse hreg htail h
  have hwritable := Field.wellFormed_of_forall₂ hown
  obtain ⟨parsed, hparsed⟩ :=
    Field.exists_forall₂_replays (fun f hf => (hwritable f hf).1) place.other
  obtain ⟨bs, hbs⟩ := exists_merge_eq_ok fun f hf => (hwritable f hf).2
  have hrecords : ∀ f ∈ own, f.isLeftover = false := fun f hf =>
    (Field.writable_of_forall₂ hown f hf).1.isLeftover_eq
  have hids : parsed.map Field.id = own.map Field.id :=
    map_eq_of_forall₂ (hparsed.imp fun _ _ hfg => hfg.id_eq)
  have hkinds : parsed.map Field.isLeftover = own.map Field.isLeftover :=
    map_eq_of_forall₂ (hparsed.imp fun _ _ hfg => hfg.isLeftover_eq.trans hfg.isLeftover_left.symm)
  have hmerge := merge_endedBy hbs (leftover? place tail)
  cases tail with
  | nil =>
    -- there is nothing behind the records
    have hcarried : FieldList.carried place (endedBy own (leftover? place [])) = own := by
      cases place with
      | localHeader => exact List.append_nil own
      | central => exact FieldList.records_endedBy _ hrecords
    have hfields : endedBy own (leftover? place []) = own := List.append_nil own
    rw [hcarried, hfields]
    exact ⟨bs, parsed, hbs, hbs, parse_of_replays hparsed hbs remainder, hids, hkinds⟩
  | cons b tail =>
    cases remainder with
    | refuse => cases Registry.eq_nil_of_parse_refuse hreg htail h
    | keep =>
      cases place with
      | localHeader =>
        have hread := parse_append hparsed hbs htail
        rw [if_neg (by simp)] at hread
        refine ⟨bs ++ b :: tail, _, hmerge, hmerge, hread, ?_, ?_⟩
        · rw [List.map_append, hids, FieldList.carried, endedBy, List.map_append]
          rfl
        · rw [List.map_append, hkinds, FieldList.carried, endedBy, List.map_append]
          rfl
      | central =>
        rw [FieldList.carried, FieldList.records_endedBy _ hrecords]
        exact ⟨bs, parsed, hmerge.trans (congrArg Except.ok (List.append_nil bs)), hbs,
          parse_of_replays hparsed hbs .keep, hids, hkinds⟩

/-- The stream of a central header: a Zip64 record with a disk number only, a timestamp that flags
times which it does not have, an owner and a group in a form that local headers do not allow, an
unknown id, and two bytes more. -/
def sampleCentral : Bytes :=
  [0x01, 0, 4, 0, 3, 0, 0, 0, 0x55, 0x54, 5, 0, 7, 0, 0xE1, 0xF5, 5, 0x75, 0x78, 2, 0, 1, 0,
    0x34, 0x12, 1, 0, 9, 1, 2]

/-- All four records have a payload in the local header, and the two bytes have no place there. -/
theorem parse_merge_other_sampleCentral :
    ∃ (fields parsed : FieldList Empty) (bs : Bytes),
      (Registry.builtin : Registry Empty).parse .central .keep sampleCentral = .ok fields ∧
      fields.map Field.isLeftover = [false, false, false, false, true] ∧
      merge .localHeader fields = .ok bs ∧
      (Registry.builtin : Registry Empty).parse .localHeader .keep bs = .ok parsed ∧
      parsed.map Field.id = [0x0001, 0x5455, 0x7875, 0x1234] := by
  have hparse : (Registry.builtin : Registry Empty).parse .central .keep sampleCentral =
      .ok [.zip64 { disk? := some 3, rawCentral? := some [3, 0, 0, 0] },
        .timestamp { centralFlags := 7, modify? := some 100000000 },
        .ownership { (default : Ownership) with centralCopy? := some [1, 0] },
        .unrecognized { id := 0x1234, localCopy := [9], centralCopy? := some [9] },
        .leftover { centralCopy? := some [1, 2] }] := by decide +kernel
  obtain ⟨bs, parsed, hmerge, -, hread, hids, -⟩ := parse_merge_other .central .keep hparse
  exact ⟨_, parsed, bs, hparse, rfl, hmerge, hread, hids⟩

end ZipArchive.Extra
