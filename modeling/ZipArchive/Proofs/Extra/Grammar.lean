import ZipArchive.Proofs.Extra.Crossing

/-!
# The grammar of extra fields

What the two headers may hold is a row of records, and for each id there is a form that its payloads
have: `HasForm`, one constructor for each row of the table of record types. A stream whose records
all have their form is accepted, and it is written again byte for byte. An accepted stream has that
form but for requests for alignment: of these two bytes at least are wanted, and whatever stands
behind them is taken for padding and dropped. So the streams of the grammar are just those that are
accepted and written as they were: `parse_refuse_iff`.

A stream falls into records in one way only, `RawRecord.stream_injective`.
-/

namespace ZipArchive.Extra

open RawRecord (stream)

/-! ### The form of a payload -/

namespace Timestamp

/-- The number of bytes of the times that are flagged, of those with the given bits. -/
def flaggedLength (flags : UInt8) (bits : List UInt8) : ℕ :=
  4 * bits.countP fun bit => flags &&& bit != 0

end Timestamp

/-- The payload of a record with the id has its form in the header. -/
inductive HasForm : Place → UInt16 → Bytes → Prop
  /-- A local Zip64 record: nothing, or both sizes, the offset, and the disk number behind it. -/
  | zip64Local {payload : Bytes} (h : payload.length ∈ [0, 16, 24, 28]) :
      HasForm .localHeader Zip64.recordId payload
  /-- A central Zip64 record: up to three values of eight bytes, and a disk number or none. -/
  | zip64Central {payload : Bytes} {values : ℕ} (hvalues : values ≤ 3)
      (h : payload.length = 8 * values ∨ payload.length = 8 * values + 4) :
      HasForm .central Zip64.recordId payload
  /-- A local timestamp: flags, and each time that is flagged. -/
  | timestampLocal {flags : UInt8} {times : Bytes}
      (h : times.length = Timestamp.flaggedLength flags
        [Timestamp.modifyBit, Timestamp.accessBit, Timestamp.createBit]) :
      HasForm .localHeader Timestamp.recordId (flags :: times)
  /-- A central timestamp: flags, and the time of modification if it is flagged. -/
  | timestampCentral {flags : UInt8} {times : Bytes}
      (h : times.length = Timestamp.flaggedLength flags [Timestamp.modifyBit]) :
      HasForm .central Timestamp.recordId (flags :: times)
  /-- A local ownership record: a version, and both ids with their lengths. -/
  | ownershipLocal (version : UInt8) {user group : Bytes} (huser : user.length < 256)
      (hgroup : group.length < 256) :
      HasForm .localHeader Ownership.recordId
        (version :: (Ownership.sized user ++ Ownership.sized group))
  /-- A central ownership record: any bytes. -/
  | ownershipCentral (payload : Bytes) : HasForm .central Ownership.recordId payload
  /-- A Unicode path or comment: the version, a checksum of four bytes, and a text. -/
  | unicodeText (place : Place) {id : UInt16}
      (hid : id = UnicodeText.pathId ∨ id = UnicodeText.commentId) {checksum : Bytes}
      (hchecksum : checksum.length = 4) (text : Bytes) : HasForm place id (1 :: (checksum ++ text))
  /-- A local request for alignment: a word, and zeros behind it. -/
  | alignmentLocal {word : Bytes} (hword : word.length = 2) (padding : ℕ) :
      HasForm .localHeader Alignment.recordId (word ++ List.replicate padding 0)
  /-- A central request for alignment: a word. -/
  | alignmentCentral {word : Bytes} (hword : word.length = 2) :
      HasForm .central Alignment.recordId word
  /-- A marker of an executable jar: nothing. -/
  | jarMarker (place : Place) : HasForm place JarMarker.recordId []
  /-- A record with any other id: any bytes. -/
  | other (place : Place) {id : UInt16}
      (hid : id ∉ [Zip64.recordId, Timestamp.recordId, Ownership.recordId, UnicodeText.pathId,
        UnicodeText.commentId, Alignment.recordId, JarMarker.recordId]) (payload : Bytes) :
      HasForm place id payload

/-! ### Payloads that are read -/

namespace Zip64

private theorem exists_ofLocal_iff {payload : Bytes} :
    (∃ z, ofLocal payload = .ok z) ↔ payload.length ∈ [0, 16, 24, 28] := by
  simp only [ofLocal, List.mem_cons, List.not_mem_nil, or_false]
  split
  case h_5 hempty hsizes hoffset hdisk =>
    refine iff_of_false ?_ ?_
    · rintro ⟨_, ⟨⟩⟩
    · rintro (h | h | h | h)
      · exact hempty h
      · exact hsizes h
      · exact hoffset h
      · exact hdisk h
  all_goals exact iff_of_true ⟨_, rfl⟩ (by omega)

private theorem exists_ofCentral_iff {payload : Bytes} :
    (∃ z, ofCentral payload = .ok z) ↔
      ∃ values ≤ 3, payload.length = 8 * values ∨ payload.length = 8 * values + 4 := by
  simp only [ofCentral]
  split
  case isTrue hrest =>
    refine iff_of_true ⟨_, rfl⟩ ⟨min (payload.length / 8) 3, Nat.min_le_right _ _, ?_⟩
    omega
  case isFalse hrest =>
    refine iff_of_false (by simp) ?_
    rintro ⟨values, hvalues, hlength⟩
    omega

end Zip64

namespace Timestamp

private theorem flaggedLength_cons (flags bit : UInt8) (bits : List UInt8) :
    flaggedLength flags (bit :: bits) = flaggedLength flags [bit] + flaggedLength flags bits := by
  simp only [flaggedLength, List.countP_cons, List.countP_nil]
  omega

/-- The bytes of a time that is read are those that its flag calls for. -/
theorem length_timeBytes_of_flag {flags bit : UInt8} {time? : Option Int32}
    (h : time?.isSome = (flags &&& bit != 0)) :
    (timeBytes time?).length = flaggedLength flags [bit] := by
  rw [length_timeBytes, h, flaggedLength, List.countP_singleton]
  cases flags &&& bit != 0 with
  | false => rfl
  | true => rfl

/-- Where there are enough bytes, a time is taken off the front of them. -/
theorem exists_takeTime {flags bit : UInt8} {bs : Bytes}
    (h : flaggedLength flags [bit] ≤ bs.length) :
    ∃ time?, takeTime flags bit bs = .ok (time?, bs.drop (flaggedLength flags [bit])) := by
  rw [flaggedLength, List.countP_singleton] at h ⊢
  rw [takeTime]
  by_cases hflag : flags &&& bit = 0
  · exact ⟨none, by simp [hflag]⟩
  · have hset : (flags &&& bit != 0) = true := bne_iff_ne.2 hflag
    rw [hset, if_pos rfl] at h ⊢
    exact ⟨_, by rw [if_neg hflag, if_neg (Nat.not_lt.2 h)]⟩

private theorem exists_ofLocal_iff {payload : Bytes} :
    (∃ t, ofLocal payload = .ok t) ↔ ∃ flags times, payload = flags :: times ∧
      times.length = flaggedLength flags [modifyBit, accessBit, createBit] := by
  constructor
  · rintro ⟨t, h⟩
    rcases payload with _ | ⟨flags, bs⟩
    · cases h
    -- each flagged time is taken off the front, and nothing may be left behind the last one
    obtain ⟨⟨modify?, bs₁⟩, hmodify, h⟩ := bind_eq_ok_iff.1 h
    obtain ⟨⟨access?, bs₂⟩, haccess, h⟩ := bind_eq_ok_iff.1 h
    obtain ⟨⟨create?, bs₃⟩, hcreate, h⟩ := bind_eq_ok_iff.1 h
    obtain ⟨⟨⟩, hend, -⟩ := bind_eq_ok_iff.1 h
    obtain ⟨rfl, hmodifyFlag⟩ := of_takeTime hmodify
    obtain ⟨rfl, haccessFlag⟩ := of_takeTime haccess
    obtain ⟨rfl, hcreateFlag⟩ := of_takeTime hcreate
    obtain rfl := of_atEnd hend
    refine ⟨flags, _, rfl, ?_⟩
    rw [flaggedLength_cons, flaggedLength_cons _ accessBit, List.append_nil, List.length_append,
      List.length_append, length_timeBytes_of_flag hmodifyFlag,
      length_timeBytes_of_flag haccessFlag, length_timeBytes_of_flag hcreateFlag]
  · rintro ⟨flags, times, rfl, h⟩
    rw [flaggedLength_cons, flaggedLength_cons _ accessBit] at h
    obtain ⟨modify?, hmodify⟩ := @exists_takeTime flags modifyBit times (by omega)
    generalize hrest : times.drop (flaggedLength flags [modifyBit]) = rest at hmodify
    have hlength : rest.length =
        flaggedLength flags [accessBit] + flaggedLength flags [createBit] := by
      rw [← hrest, List.length_drop]
      omega
    obtain ⟨access?, haccess⟩ := @exists_takeTime flags accessBit rest (by omega)
    generalize hlast : rest.drop (flaggedLength flags [accessBit]) = last at haccess
    have hcreated : last.length = flaggedLength flags [createBit] := by
      rw [← hlast, List.length_drop]
      omega
    obtain ⟨create?, hcreate⟩ := exists_takeTime (Nat.le_of_eq hcreated.symm)
    rw [List.drop_eq_nil_of_le (Nat.le_of_eq hcreated)] at hcreate
    exact ⟨_, bind_eq_ok_iff.2 ⟨_, hmodify, bind_eq_ok_iff.2 ⟨_, haccess,
      bind_eq_ok_iff.2 ⟨_, hcreate, bind_eq_ok_iff.2 ⟨(), rfl, rfl⟩⟩⟩⟩⟩

private theorem exists_withCentral_iff {t : Timestamp} {payload : Bytes} :
    (∃ u, t.withCentral payload = .ok u) ↔ ∃ flags times, payload = flags :: times ∧
      times.length = flaggedLength flags [modifyBit] := by
  constructor
  · rintro ⟨u, h⟩
    obtain ⟨flags, modify?, rfl, hflag, -⟩ := of_withCentral h
    exact ⟨flags, _, rfl, length_timeBytes_of_flag hflag⟩
  · rintro ⟨flags, times, rfl, h⟩
    obtain ⟨modify?, hmodify⟩ := exists_takeTime (Nat.le_of_eq h.symm)
    rw [List.drop_eq_nil_of_le (Nat.le_of_eq h)] at hmodify
    exact ⟨_, bind_eq_ok_iff.2 ⟨_, hmodify, bind_eq_ok_iff.2 ⟨(), rfl, rfl⟩⟩⟩

end Timestamp

private theorem Ownership.exists_withLocal_iff {o : Ownership} {payload : Bytes} :
    (∃ p, o.withLocal payload = .ok p) ↔ ∃ version user group,
      payload = version :: (sized user ++ sized group) ∧ user.length < 256 ∧
        group.length < 256 := by
  constructor
  · rintro ⟨p, h⟩
    obtain ⟨rfl, ⟨huser, hgroup⟩, -⟩ := of_withLocal h
    exact ⟨_, _, _, rfl, huser, hgroup⟩
  · rintro ⟨version, user, group, rfl, huser, hgroup⟩
    exact ⟨_, @withLocal_localData { version, userBytes := user, groupBytes := group }
      ⟨huser, hgroup⟩ o⟩

private theorem UnicodeText.exists_ofPayload_iff {id : UInt16} {payload : Bytes} :
    (∃ u, ofPayload id payload = .ok u) ↔ ∃ checksum text : Bytes, checksum.length = 4 ∧
      payload = 1 :: (checksum ++ text) := by
  constructor
  · rintro ⟨u, h⟩
    exact ⟨_, u.text, Bytes.length_toLE 4 u.checksum.toNat, (payload_of_ofPayload h).symm⟩
  · rintro ⟨checksum, text, hchecksum, rfl⟩
    obtain ⟨c₀, c₁, c₂, c₃, rfl⟩ := List.length_eq_four.1 hchecksum
    exact ⟨_, rfl⟩

/-! ### The records that are accepted -/

namespace Registry

variable {κ : Type} {place : Place} {id : UInt16} {payload : Bytes}

/-- The payload of a record that is read has its form, but for a request for alignment, of which two
bytes at least are wanted. -/
theorem hasForm_of_readsTo {g : Field κ}
    (h : ((builtin : Registry κ).create id).ReadsTo payload place g) :
    HasForm place id payload ∨ id = Alignment.recordId ∧ 2 ≤ payload.length := by
  simp only [create, builtin] at h
  split at h
  -- the last case is that of all ids which are not listed
  case h_13 hzip64 htimestamp hownership hpath hcomment halignment hjar _ _ _ _ _ =>
    refine .inl (.other place ?_ payload)
    simp only [List.mem_cons, List.not_mem_nil, or_false, not_or]
    exact ⟨hzip64, htimestamp, hownership, hpath, hcomment, halignment, hjar⟩
  all_goals cases h
  case h_1.zip64Local h => exact .inl (.zip64Local (Zip64.exists_ofLocal_iff.1 ⟨_, h⟩))
  case h_1.zip64Central h =>
    obtain ⟨values, hvalues, hlength⟩ := Zip64.exists_ofCentral_iff.1 ⟨_, h⟩
    exact .inl (.zip64Central hvalues hlength)
  case h_2.timestampLocal h =>
    obtain ⟨flags, times, rfl, hlength⟩ := Timestamp.exists_ofLocal_iff.1 ⟨_, h⟩
    exact .inl (.timestampLocal hlength)
  case h_2.timestampCentral h =>
    obtain ⟨flags, times, rfl, hlength⟩ := Timestamp.exists_withCentral_iff.1 ⟨_, h⟩
    exact .inl (.timestampCentral hlength)
  case h_3.ownershipLocal h =>
    obtain ⟨version, user, group, rfl, huser, hgroup⟩ := Ownership.exists_withLocal_iff.1 ⟨_, h⟩
    exact .inl (.ownershipLocal version huser hgroup)
  case h_3.ownershipCentral => exact .inl (.ownershipCentral payload)
  case h_4.unicodePath h =>
    obtain ⟨checksum, text, hchecksum, rfl⟩ := UnicodeText.exists_ofPayload_iff.1 ⟨_, h⟩
    exact .inl (.unicodeText place (.inl rfl) hchecksum text)
  case h_5.unicodeComment h =>
    obtain ⟨checksum, text, hchecksum, rfl⟩ := UnicodeText.exists_ofPayload_iff.1 ⟨_, h⟩
    exact .inl (.unicodeText place (.inr rfl) hchecksum text)
  case h_6.alignmentLocal h => exact .inr ⟨rfl, h⟩
  case h_6.alignmentCentral h => exact .inr ⟨rfl, h⟩
  case h_7.jarMarker h =>
    subst h
    exact .inl (.jarMarker place)
  all_goals exact .inl (.other _ (by decide) payload)

/-- A record with an id that has no type of its own is read as a blob. -/
theorem exists_readsTo_of_notMem
    (hid : id ∉ [Zip64.recordId, Timestamp.recordId, Ownership.recordId, UnicodeText.pathId,
      UnicodeText.commentId, Alignment.recordId, JarMarker.recordId]) :
    ∃ g, ((builtin : Registry κ).create id).ReadsTo payload place g := by
  simp only [create, builtin]
  split
  case h_1 | h_2 | h_3 | h_4 | h_5 | h_6 | h_7 => exact absurd (by decide) hid
  case h_13 =>
    cases place with
    | localHeader => exact ⟨_, .unrecognizedLocal _⟩
    | central => exact ⟨_, .unrecognizedCentral _⟩
  all_goals
    cases place with
    | localHeader => exact ⟨_, .certificateLocal _⟩
    | central => exact ⟨_, .certificateCentral _⟩

/-- A payload that has its form is read. -/
theorem exists_readsTo_of_hasForm (h : HasForm place id payload) :
    ∃ g, ((builtin : Registry κ).create id).ReadsTo payload place g := by
  cases h with
  | zip64Local h =>
    obtain ⟨z, hz⟩ := Zip64.exists_ofLocal_iff.2 h
    exact ⟨_, .zip64Local hz⟩
  | zip64Central hvalues h =>
    obtain ⟨z, hz⟩ := Zip64.exists_ofCentral_iff.2 ⟨_, hvalues, h⟩
    exact ⟨_, .zip64Central hz⟩
  | timestampLocal h =>
    obtain ⟨t, ht⟩ := Timestamp.exists_ofLocal_iff.2 ⟨_, _, rfl, h⟩
    exact ⟨_, .timestampLocal ht⟩
  | timestampCentral h =>
    obtain ⟨t, ht⟩ := Timestamp.exists_withCentral_iff.2 ⟨_, _, rfl, h⟩
    exact ⟨_, .timestampCentral ht⟩
  | ownershipLocal version huser hgroup =>
    obtain ⟨o, ho⟩ := Ownership.exists_withLocal_iff.2 ⟨version, _, _, rfl, huser, hgroup⟩
    exact ⟨_, .ownershipLocal ho⟩
  | ownershipCentral payload => exact ⟨_, .ownershipCentral _⟩
  | unicodeText place hid hchecksum text =>
    rcases hid with rfl | rfl
    · obtain ⟨u, hu⟩ := UnicodeText.exists_ofPayload_iff.2 ⟨_, text, hchecksum, rfl⟩
      exact ⟨_, .unicodePath place hu⟩
    · obtain ⟨u, hu⟩ := UnicodeText.exists_ofPayload_iff.2 ⟨_, text, hchecksum, rfl⟩
      exact ⟨_, .unicodeComment place hu⟩
  | alignmentLocal hword padding =>
    refine ⟨_, .alignmentLocal _ ?_⟩
    rw [List.length_append, hword]
    exact Nat.le_add_right 2 _
  | alignmentCentral hword => exact ⟨_, .alignmentCentral _ (Nat.le_of_eq hword.symm)⟩
  | jarMarker place => exact ⟨_, .jarMarker place _ rfl⟩
  | other place hid payload => exact exists_readsTo_of_notMem hid

/-- Requests for alignment may have any bytes behind the first two. -/
theorem exists_readsTo_alignment (h : 2 ≤ payload.length) :
    ∃ g, ((builtin : Registry κ).create Alignment.recordId).ReadsTo payload place g := by
  cases place with
  | localHeader => exact ⟨_, .alignmentLocal _ h⟩
  | central => exact ⟨_, .alignmentCentral _ h⟩

private theorem exists_readsTo_iff :
    (∃ g, ((builtin : Registry κ).create id).ReadsTo payload place g) ↔
      HasForm place id payload ∨ id = Alignment.recordId ∧ 2 ≤ payload.length := by
  constructor
  · rintro ⟨g, h⟩
    exact hasForm_of_readsTo h
  · rintro (h | ⟨rfl, hlength⟩)
    · exact exists_readsTo_of_hasForm h
    · exact exists_readsTo_alignment hlength

end Registry

/-- A request for alignment has its form if nothing is lost of it. -/
theorem hasForm_alignment_iff {place : Place} {payload : Bytes} :
    HasForm place Alignment.recordId payload ↔
      2 ≤ payload.length ∧ Alignment.kept place payload = payload := by
  constructor
  · generalize hid : Alignment.recordId = id
    rintro ⟨⟩
    -- two forms have this id, and the others are those of other ids
    case alignmentLocal word hword padding =>
      refine ⟨by rw [List.length_append, hword]; exact Nat.le_add_right 2 _, ?_⟩
      rw [Alignment.kept, List.take_left' hword, List.length_append, hword,
        List.length_replicate, Nat.add_sub_cancel_left]
    case alignmentCentral hword =>
      exact ⟨Nat.le_of_eq hword.symm, List.take_of_length_le (Nat.le_of_eq hword)⟩
    case other hother =>
      rw [← hid] at hother
      exact absurd (by decide) hother
    case unicodeText hunicode =>
      rw [← hid] at hunicode
      exact absurd hunicode (by decide)
    all_goals exact absurd hid (by decide)
  · rintro ⟨hlength, hkept⟩
    have hword : (payload.take 2).length = 2 := by
      rw [List.length_take, Nat.min_eq_left hlength]
    rw [← hkept]
    cases place with
    | localHeader => exact .alignmentLocal hword _
    | central => exact .alignmentCentral hword

namespace RawRecord

variable {place : Place} {r : RawRecord}

/-- A record that has its form is settled. -/
theorem settled_of_hasForm (h : HasForm place r.id r.payload) : r.settled place = r := by
  rw [settled]
  split
  case isTrue hid =>
    rw [hid] at h
    have hkept := (hasForm_alignment_iff.1 h).2
    cases r
    simp only at hkept
    simp only [hkept]
  case isFalse => rfl

/-- A record that is read and settled has its form. -/
theorem hasForm_of_settled
    (h : HasForm place r.id r.payload ∨ r.id = Alignment.recordId ∧ 2 ≤ r.payload.length)
    (hsettled : r.settled place = r) : HasForm place r.id r.payload := by
  rcases h with h | ⟨hid, hlength⟩
  · exact h
  · have hkept := congrArg payload hsettled
    rw [settled, if_pos hid] at hkept
    rw [hid]
    exact hasForm_alignment_iff.2 ⟨hlength, hkept⟩

/-! ### Streams -/

private theorem stream_cons_ne_nil (r : RawRecord) (records : List RawRecord) :
    stream (r :: records) ≠ [] := by
  intro h
  have hlength := congrArg List.length h
  simp only [stream_cons, bytes, List.length_append, Bytes.length_toLE, List.length_nil] at hlength
  omega

/-- What stands behind a record does not matter to it. -/
theorem bytes_append_inj {r s : RawRecord} {more rest : Bytes}
    (h : r.bytes ++ more = s.bytes ++ rest) : r = s ∧ more = rest := by
  -- the first slot of either side is that of the record, and tells its id and where it ends
  have hslots := congrArg (slots 0) h
  rw [bytes, bytes, slots_append 0 _ r.length_le, slots_append 0 _ s.length_le] at hslots
  have hslot := (List.cons.inj (congrArg Prod.fst hslots)).1
  have hid : r.id = s.id := congrArg Slot.id hslot
  have hlength : r.payload.length = s.payload.length := congrArg Slot.length hslot
  have hbytes : r.bytes.length = s.bytes.length := by
    simp only [bytes, List.length_append, Bytes.length_toLE, hlength]
  obtain ⟨hrecord, hrest⟩ := List.append_inj h hbytes
  rw [bytes, bytes, hid, hlength] at hrecord
  have hpayload : r.payload = s.payload := List.append_cancel_left hrecord
  rcases r with ⟨id, payload, hle⟩
  rcases s with ⟨id', payload', hle'⟩
  obtain rfl : id = id' := hid
  obtain rfl : payload = payload' := hpayload
  exact ⟨rfl, hrest⟩

/-- A stream is a row of records in one way only. -/
theorem stream_injective : Function.Injective stream := by
  intro records records' h
  induction records generalizing records' with
  | nil =>
    rcases records' with _ | ⟨r', records'⟩
    · rfl
    · exact absurd h.symm (stream_cons_ne_nil r' records')
  | cons r records ih =>
    rcases records' with _ | ⟨r', records'⟩
    · exact absurd h (stream_cons_ne_nil r records)
    · rw [stream_cons, stream_cons] at h
      obtain ⟨rfl, hrest⟩ := bytes_append_inj h
      rw [ih hrest]

end RawRecord

variable {κ : Type} [Record κ]

namespace Registry

/-- A row of records of which each is read. -/
theorem exists_parse_stream {reg : Registry κ} (hreg : ∀ id, (reg.create id).IsOwn) {place : Place}
    {records : List RawRecord}
    (h : ∀ r ∈ records, ∃ g, (reg.create r.id).ReadsTo r.payload place g) (remainder : Remainder) :
    ∃ fields, reg.parse place remainder (stream records) = .ok fields := by
  have hread : ∀ r ∈ records, ∃ g, r.read reg place = .ok g := by
    intro r hr
    obtain ⟨g, hg⟩ := h r hr
    exact ⟨g, RawRecord.read_eq_ok_iff.2 (Field.read_of_readsTo hg)⟩
  rw [parse_records (fun id => (hreg id).isBuiltin)]
  exact exists_mapM_eq_ok hread

/-- A stream of which nothing is refused is a row of records of which each is read. -/
theorem exists_records_of_parse {reg : Registry κ} (hreg : ∀ id, (reg.create id).IsOwn)
    {place : Place} {d : Bytes} {fields : List (Field κ)}
    (h : reg.parse place .refuse d = .ok fields) :
    ∃ records, d = stream records ∧
      ∀ r ∈ records, ∃ g, (reg.create r.id).ReadsTo r.payload place g := by
  obtain ⟨records, tail, rfl, htail⟩ := RawRecord.exists_records d
  obtain rfl := eq_nil_of_parse_refuse hreg htail h
  obtain ⟨own, -, hown⟩ := forall₂_of_parse hreg htail h
  refine ⟨records, List.append_nil _, fun r hr => ?_⟩
  obtain ⟨g, -, hg⟩ := exists_of_mem_forall₂ hown.flip hr
  exact ⟨g, hg⟩

/-- A row of records that is read is written as the row of the settled ones. -/
theorem merge_of_parse_stream {place : Place} {remainder : Remainder} {records : List RawRecord}
    {fields : List (Field κ)}
    (h : (builtin : Registry κ).parse place remainder (stream records) = .ok fields) :
    merge place fields = .ok (stream (records.map (RawRecord.settled place))) := by
  rw [← List.append_nil (stream records)] at h
  rw [merge_of_parse receives_builtin not_startsWithRecord_nil h, List.append_nil,
    RawRecord.rewritten_builtin]

/-- The streams that are accepted, whose records all have their form but for what is behind the
first two bytes of requests for alignment; and those of the grammar, which are the ones that are
accepted and written again as they were. -/
theorem parse_refuse_iff (place : Place) (d : Bytes) :
    ((∃ fields, (builtin : Registry κ).parse place .refuse d = .ok fields) ↔
      ∃ records, d = stream records ∧ ∀ r ∈ records,
        HasForm place r.id r.payload ∨ r.id = Alignment.recordId ∧ 2 ≤ r.payload.length) ∧
    ((∃ records, d = stream records ∧ ∀ r ∈ records, HasForm place r.id r.payload) ↔
      ∃ fields, (builtin : Registry κ).parse place .refuse d = .ok fields ∧
        merge place fields = .ok d) := by
  have hreg : ∀ id, ((builtin : Registry κ).create id).IsOwn := fun id =>
    (receives_builtin id).isOwn
  have haccepted : (∃ fields, (builtin : Registry κ).parse place .refuse d = .ok fields) ↔
      ∃ records, d = stream records ∧ ∀ r ∈ records,
        HasForm place r.id r.payload ∨ r.id = Alignment.recordId ∧ 2 ≤ r.payload.length := by
    constructor
    · rintro ⟨fields, h⟩
      obtain ⟨records, rfl, hrecords⟩ := exists_records_of_parse hreg h
      exact ⟨records, rfl, fun r hr => exists_readsTo_iff.1 (hrecords r hr)⟩
    · rintro ⟨records, rfl, hrecords⟩
      exact exists_parse_stream hreg (fun r hr => exists_readsTo_iff.2 (hrecords r hr)) .refuse
  -- what is written is the row of the settled records, which are those of the stream just if each
  -- of them has its form
  refine ⟨haccepted, ?_, ?_⟩
  · rintro ⟨records, rfl, hrecords⟩
    obtain ⟨fields, hfields⟩ := haccepted.2 ⟨records, rfl, fun r hr => .inl (hrecords r hr)⟩
    have hsettled : records.map (RawRecord.settled place) = records.map fun r => r :=
      List.map_inj_left.2 fun r hr => RawRecord.settled_of_hasForm (hrecords r hr)
    exact ⟨fields, hfields, by rw [merge_of_parse_stream hfields, hsettled, List.map_id']⟩
  · rintro ⟨fields, hfields, hwritten⟩
    obtain ⟨records, rfl, hrecords⟩ := haccepted.1 ⟨fields, hfields⟩
    have hsame := (merge_of_parse_stream hfields).symm.trans hwritten
    have hsettled : records.map (RawRecord.settled place) = records.map fun r => r :=
      (RawRecord.stream_injective (Except.ok.inj hsame)).trans (List.map_id' records).symm
    exact ⟨records, rfl, fun r hr =>
      RawRecord.hasForm_of_settled (hrecords r hr) (List.map_inj_left.1 hsettled r hr)⟩

/-- The stream of a request for alignment, with a byte behind its word. -/
def sampleRequest : Bytes :=
  [0x1E, 0xA1, 3, 0, 4, 0, 7]

private theorem not_hasForm_sampleRequest (place : Place) :
    ¬∃ records, sampleRequest = stream records ∧ ∀ r ∈ records, HasForm place r.id r.payload := by
  rintro ⟨records, hstream, hrecords⟩
  have hrecord : sampleRequest = stream [⟨Alignment.recordId, [4, 0, 7], by decide⟩] := rfl
  obtain rfl := RawRecord.stream_injective (hrecord.symm.trans hstream)
  have hform : HasForm place Alignment.recordId [4, 0, 7] :=
    hrecords _ (List.mem_singleton_self _)
  have hkept := (hasForm_alignment_iff.1 hform).2
  cases place with
  | localHeader => exact absurd hkept (by decide)
  | central => exact absurd hkept (by decide)

/-- The byte is no zero, and the request is accepted from either header all the same. -/
theorem parse_refuse_sampleRequest :
    ((∃ fields, (builtin : Registry Empty).parse .localHeader .refuse sampleRequest = .ok fields) ∧
      ¬∃ records, sampleRequest = stream records ∧
        ∀ r ∈ records, HasForm .localHeader r.id r.payload) ∧
    (∃ fields, (builtin : Registry Empty).parse .central .refuse sampleRequest = .ok fields) ∧
      ¬∃ records, sampleRequest = stream records ∧
        ∀ r ∈ records, HasForm .central r.id r.payload := by
  have hlocal : (builtin : Registry Empty).parse .localHeader .refuse sampleRequest =
      .ok [.alignment { alignment := 4, padding := 1, alignment_le := by decide }] := by
    decide +kernel
  have hcentral : (builtin : Registry Empty).parse .central .refuse sampleRequest =
      .ok [.alignment { alignment := 4, alignment_le := by decide }] := by decide +kernel
  exact ⟨⟨⟨_, hlocal⟩, not_hasForm_sampleRequest .localHeader⟩, ⟨_, hcentral⟩,
    not_hasForm_sampleRequest .central⟩

end Registry

end ZipArchive.Extra
