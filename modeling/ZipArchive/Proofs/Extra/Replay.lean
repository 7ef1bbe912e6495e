import ZipArchive.Proofs.Extra.Merge
import ZipArchive.Proofs.Extra.Payloads
import ZipArchive.Proofs.Forall2

/-!
# Streams of records are read as they are written

Each well-formed record has a payload from which the empty record of its id becomes a record with
the same payload: `Field.WellFormed.exists_replays`. In the local header it also has the same
values, `Field.AgreesLocally`, but for the zeros that a Zip64 record is completed with. Record by
record, so does a stream: `parse_merge`. Bytes that form no record may stand behind the last one,
unless they look like a record themselves, `StartsWithRecord`.
-/

namespace ZipArchive.Extra

variable {κ : Type}

/-! ### Records with the same values -/

/-- The record, if it is kept as bytes. -/
def Field.blob? : Field κ → Option Opaque
  | .certificate o => some o
  | .unrecognized o => some o
  | _ => none

/-- The second record has what the first has in its local payload. -/
inductive Field.AgreesLocally : Field κ → Field κ → Prop
  | zip64 (z : Zip64) : AgreesLocally (.zip64 z) (.zip64 z.completed)
  | timestamp {t u : Timestamp} (hmodify : u.modify? = t.modify?) (haccess : u.access? = t.access?)
      (hcreate : u.create? = t.create?) : AgreesLocally (.timestamp t) (.timestamp u)
  | ownership {o p : Ownership} (hversion : p.version = o.version)
      (huser : p.userBytes = o.userBytes) (hgroup : p.groupBytes = o.groupBytes) :
      AgreesLocally (.ownership o) (.ownership p)
  | unicodePath (u : UnicodeText) : AgreesLocally (.unicodePath u) (.unicodePath u)
  | unicodeComment (u : UnicodeText) : AgreesLocally (.unicodeComment u) (.unicodeComment u)
  | alignment (a : Alignment) : AgreesLocally (.alignment a) (.alignment a)
  | jarMarker (m : JarMarker) : AgreesLocally (.jarMarker m) (.jarMarker m)
  | blob {f g : Field κ} {o p : Opaque} (hf : f.blob? = some o) (hg : g.blob? = some p)
      (hpayload : p.localCopy = o.localCopy) : AgreesLocally f g
  | leftover {l m : Leftover} (hbytes : m.localCopy = l.localCopy) :
      AgreesLocally (.leftover l) (.leftover m)

variable [Record κ]

/-- From the payload of the first record, the empty record of its id becomes the second one. -/
structure Field.Replays (place : Place) (f g : Field κ) : Prop where
  parse_eq : ∀ buf offset, Buffer.span buf offset (f.data place).length = .ok (f.data place) →
    ((Registry.builtin : Registry κ).create f.id).parse place buf offset (f.data place).length =
      (.ok (), g)
  isLeftover_left : f.isLeftover = false
  isLeftover_eq : g.isLeftover = false
  id_eq : g.id = f.id
  data_eq : g.data place = f.data place
  agrees : place = .localHeader → f.AgreesLocally g

namespace Field

/-! ### Record by record -/

private theorem exists_replays_zip64 (place : Place) (z : Zip64) :
    ∃ g : Field κ, Replays place (.zip64 z) g := by
  cases place with
  | localHeader =>
    have hread : ReadsTo z.localData .localHeader (.zip64 {} : Field κ) _ :=
      .zip64Local z.ofLocal_localData
    exact ⟨.zip64 z.completed, fun _ _ => hread.parse_eq, rfl, rfl, rfl, z.localData_completed,
      fun _ => .zip64 z⟩
  | central =>
    have hread : ReadsTo z.centralData .central (.zip64 {} : Field κ) _ :=
      .zip64Central z.ofCentral_centralData
    exact ⟨.zip64 { z.compacted with rawCentral? := some z.centralData },
      fun _ _ => hread.parse_eq, rfl, rfl, rfl, z.centralData_compacted, fun h => nomatch h⟩

private theorem exists_replays_timestamp (place : Place) {t : Timestamp} (h : t.WellFormed) :
    ∃ g : Field κ, Replays place (.timestamp t) g := by
  cases place with
  | localHeader =>
    have hread : ReadsTo t.localData .localHeader (.timestamp {} : Field κ) _ :=
      .timestampLocal t.ofLocal_localData
    exact ⟨.timestamp { t with readFlags := t.flags, centralFlags := t.flags },
      fun _ _ => hread.parse_eq, rfl, rfl, rfl, t.localData_withFlags t.flags,
      fun _ => .timestamp rfl rfl rfl⟩
  | central =>
    have hread : ReadsTo t.centralData .central (.timestamp {} : Field κ) _ :=
      .timestampCentral (Timestamp.withCentral_centralData h)
    exact ⟨.timestamp t.centralPart, fun _ _ => hread.parse_eq, rfl, rfl, rfl,
      t.centralData_centralPart, fun h => nomatch h⟩

private theorem exists_replays_ownership (place : Place) {o : Ownership} (h : o.WellFormed) :
    ∃ g : Field κ, Replays place (.ownership o) g := by
  cases place with
  | localHeader =>
    have hread : ReadsTo o.localData .localHeader (.ownership default : Field κ) _ :=
      .ownershipLocal (Ownership.withLocal_localData h default)
    exact ⟨.ownership { o with centralCopy? := none }, fun _ _ => hread.parse_eq, rfl, rfl, rfl,
      rfl, fun _ => .ownership rfl rfl rfl⟩
  | central =>
    have hread : ReadsTo o.centralData .central (.ownership default : Field κ) _ :=
      .ownershipCentral default
    exact ⟨.ownership { (default : Ownership) with centralCopy? := some o.centralData },
      fun _ _ => hread.parse_eq, rfl, rfl, rfl, rfl, fun h => nomatch h⟩

omit [Record κ] in
/-- A text is read back from its payload. -/
theorem ofPayload_payload (id : UInt16) (u : UnicodeText) :
    UnicodeText.ofPayload id u.payload = .ok u := by
  have hread : UnicodeText.ofPayload id u.payload =
      .ok { checksum := UInt32.ofNat (Bytes.ofLE (bytes32 u.checksum)), text := u.text } := rfl
  rw [hread, Bytes.ofLE_bytes32, UInt32.ofNat_toNat]

private theorem replays_unicodePath (place : Place) (u : UnicodeText) :
    Replays place (.unicodePath u : Field κ) (.unicodePath u) where
  parse_eq _ _ := (ReadsTo.unicodePath place (ofPayload_payload _ u)).parse_eq
  isLeftover_left := rfl
  isLeftover_eq := rfl
  id_eq := rfl
  data_eq := rfl
  agrees _ := .unicodePath u

private theorem replays_unicodeComment (place : Place) (u : UnicodeText) :
    Replays place (.unicodeComment u : Field κ) (.unicodeComment u) where
  parse_eq _ _ := (ReadsTo.unicodeComment place (ofPayload_payload _ u)).parse_eq
  isLeftover_left := rfl
  isLeftover_eq := rfl
  id_eq := rfl
  data_eq := rfl
  agrees _ := .unicodeComment u

private theorem exists_replays_alignment (place : Place) (a : Alignment) :
    ∃ g : Field κ, Replays place (.alignment a) g := by
  cases place with
  | localHeader =>
    have hlength : 2 ≤ a.localData.length := by
      rw [a.length_localData]
      exact Nat.le_add_right 2 _
    have hread : ReadsTo a.localData .localHeader (.alignment default : Field κ) _ :=
      .alignmentLocal default hlength
    rw [a.ofLocal_localData default] at hread
    exact ⟨.alignment a, fun _ _ => hread.parse_eq, rfl, rfl, rfl, rfl, fun _ => .alignment a⟩
  | central =>
    have hlength : 2 ≤ a.centralData.length := Nat.le_of_eq a.length_centralData.symm
    have hread : ReadsTo a.centralData .central (.alignment default : Field κ) _ :=
      .alignmentCentral default hlength
    rw [a.withWord_centralData default] at hread
    exact ⟨.alignment { a with padding := (default : Alignment).padding },
      fun _ _ => hread.parse_eq, rfl, rfl, rfl, rfl, fun h => nomatch h⟩

private theorem replays_jarMarker (place : Place) (m : JarMarker) :
    Replays place (.jarMarker m : Field κ) (.jarMarker m) where
  parse_eq _ _ _ := by cases place <;> rfl
  isLeftover_left := rfl
  isLeftover_eq := rfl
  id_eq := rfl
  data_eq := rfl
  agrees _ := .jarMarker m

/-- The payload of a record kept as bytes. -/
theorem exists_parse_blob (place : Place) (o : Opaque) :
    ∃ p : Opaque, (∀ buf offset,
      Buffer.span buf offset (Record.data place o).length = .ok (Record.data place o) →
        Record.parse place ({ id := o.id } : Opaque) buf offset (Record.data place o).length =
          (.ok (), p)) ∧
      p.id = o.id ∧ Record.data place p = Record.data place o ∧
      (place = .localHeader → p.localCopy = o.localCopy) := by
  cases place with
  | localHeader =>
    exact ⟨{ id := o.id, localCopy := o.localCopy }, fun _ _ hspan => inSpan_of_span hspan, rfl,
      rfl, fun _ => rfl⟩
  | central =>
    exact ⟨({ id := o.id } : Opaque).withCentral (Record.centralData o),
      fun _ _ hspan => inSpan_of_span hspan, rfl, rfl, fun h => nomatch h⟩

private theorem exists_replays_blob (place : Place) {f : Field κ} {o : Opaque}
    (hf : f.blob? = some o) (h : (Registry.builtin : Registry κ).IsBlob o.id) :
    ∃ g : Field κ, Replays place f g := by
  have hfield : f.isLeftover = false ∧ f.id = o.id ∧ f.data place = Record.data place o := by
    cases f with
    | certificate o' => cases hf; exact ⟨rfl, rfl, rfl⟩
    | unrecognized o' => cases hf; exact ⟨rfl, rfl, rfl⟩
    | _ => cases hf
  obtain ⟨hleftover, hid, hdata⟩ := hfield
  obtain ⟨p, hparse, hp, hpayload, hlocal⟩ := exists_parse_blob place o
  rcases h with h | h
  · have hcreate : (Registry.builtin : Registry κ).create f.id = .unrecognized { id := o.id } := by
      rw [hid, Registry.create, h, Option.getD_none]
    refine ⟨.unrecognized p, fun buf offset hspan => ?_, hleftover, rfl, hp.trans hid.symm,
      hpayload.trans hdata.symm, fun hplace => .blob hf rfl (hlocal hplace)⟩
    rw [hdata] at hspan ⊢
    rw [hcreate, Field.parse, hparse buf offset hspan]
    rfl
  · have hcreate : (Registry.builtin : Registry κ).create f.id = .certificate { id := o.id } := by
      rw [hid, Registry.create, h, Option.getD_some]
    refine ⟨.certificate p, fun buf offset hspan => ?_, hleftover, rfl, hp.trans hid.symm,
      hpayload.trans hdata.symm, fun hplace => .blob hf rfl (hlocal hplace)⟩
    rw [hdata] at hspan ⊢
    rw [hcreate, Field.parse, hparse buf offset hspan]
    rfl

/-- Every well-formed record has a payload from which it can be read. -/
theorem WellFormed.exists_replays {f : Field κ} (h : f.WellFormed) (place : Place) :
    ∃ g : Field κ, Replays place f g := by
  cases f with
  | zip64 z => exact exists_replays_zip64 place z
  | timestamp t => exact exists_replays_timestamp place h
  | ownership o => exact exists_replays_ownership place h
  | unicodePath u => exact ⟨_, replays_unicodePath place u⟩
  | unicodeComment u => exact ⟨_, replays_unicodeComment place u⟩
  | alignment a => exact exists_replays_alignment place a
  | jarMarker m => exact ⟨_, replays_jarMarker place m⟩
  | certificate o => exact exists_replays_blob place rfl h
  | unrecognized o => exact exists_replays_blob place rfl h
  | leftover l => exact h.elim
  | custom r => exact h.elim
  | boxed f => exact h.elim

/-! ### Streams -/

/-- Field by field, there are records that the payloads of well-formed ones are read as. -/
theorem exists_forall₂_replays {fields : List (Field κ)} (h : ∀ f ∈ fields, f.WellFormed)
    (place : Place) : ∃ parsed, List.Forall₂ (Replays place) fields parsed := by
  induction fields with
  | nil => exact ⟨[], .nil⟩
  | cons f fields ih =>
    obtain ⟨g, hg⟩ := (h f (List.mem_cons_self ..)).exists_replays place
    obtain ⟨parsed, hparsed⟩ := ih fun x hx => h x (List.mem_cons_of_mem _ hx)
    exact ⟨g :: parsed, .cons hg hparsed⟩

/-- A record is written as the one that it is read as. -/
theorem Replays.toStream_eq {place : Place} {f g : Field κ} (h : Replays place f g) :
    g.toStream place = f.toStream place := by
  simp only [toStream, h.isLeftover_left, h.isLeftover_eq, h.id_eq, h.data_eq]

end Field

/-- The bytes start with a record: an id, a length, and as many bytes at least. -/
def StartsWithRecord (bs : Bytes) : Prop :=
  ∃ i₀ i₁ n₀ n₁ rest, bs = i₀ :: i₁ :: n₀ :: n₁ :: rest ∧ Bytes.ofLE [n₀, n₁] ≤ rest.length

omit [Record κ] in
theorem slots_of_not_startsWithRecord {bs : Bytes} (h : ¬StartsWithRecord bs) (start : Nat) :
    slots start bs = ([], bs) := by
  unfold slots
  split
  case h_1 i₀ i₁ n₀ n₁ rest =>
    have hshort : ¬(rest.take (Bytes.ofLE [n₀, n₁])).length = Bytes.ofLE [n₀, n₁] := by
      rw [List.length_take]
      intro hlength
      exact h ⟨i₀, i₁, n₀, n₁, rest, rfl, by omega⟩
    simp only [hshort, if_false]
  case h_2 => rfl

/-- A record is cut off the front of a stream. -/
theorem slots_append {id : UInt16} {payload : Bytes} (start : Nat) (rest : Bytes)
    (h : payload.length ≤ 65535) :
    slots start (bytes16 id ++ Bytes.toLE 2 payload.length ++ payload ++ rest) =
      ({ id, offset := start + 4, length := payload.length } ::
        (slots (start + 4 + payload.length) rest).1,
        (slots (start + 4 + payload.length) rest).2) := by
  obtain ⟨i₀, i₁, n₀, n₁, hheader, hid, hlength⟩ := exists_recordHeader_eq id h
  rw [hheader]
  simp only [List.cons_append, List.nil_append]
  rw [slots]
  simp only [hid, hlength, List.take_left, List.drop_left, if_true, UInt16.ofNat_toNat]

theorem span_append {buf : Array UInt8} {front payload rest : Bytes}
    (h : buf.toList = front ++ (payload ++ rest)) :
    Buffer.span buf front.length payload.length = .ok payload := by
  rw [Buffer.span_eq_span_toList, h, Bytes.span_eq_ok_iff]
  refine ⟨?_, by rw [List.drop_left, List.take_left]⟩
  rw [List.length_append, List.length_append]
  omega

/-- Where a stream stands in a buffer, its records are read. -/
theorem mapM_fill_eq_ok {place : Place} {fields parsed : List (Field κ)}
    (h : List.Forall₂ (Field.Replays place) fields parsed) {bs tail : Bytes}
    (hmerge : merge place fields = .ok bs) (htail : ¬StartsWithRecord tail) {buf : Array UInt8}
    {front : Bytes} (hbuf : buf.toList = front ++ (bs ++ tail)) :
    ∃ records, slots front.length (bs ++ tail) = (records, tail) ∧
      records.mapM (fun slot =>
        slot.fill place buf ((Registry.builtin : Registry κ).create slot.id)) = .ok parsed := by
  -- by induction on the records, `front` being the bytes of those that were read before
  induction h generalizing bs front with
  | nil =>
    obtain rfl := Except.ok.inj hmerge
    exact ⟨[], slots_of_not_startsWithRecord htail _, rfl⟩
  | @cons f g fields parsed hf _ ih =>
    obtain ⟨x, y, hx, hy, rfl⟩ := merge_cons_eq_ok_iff.1 hmerge
    obtain ⟨hsize, rfl⟩ := (Field.toStream_eq_ok_iff hf.isLeftover_left).1 hx
    have hheader : (front ++ (bytes16 f.id ++ Bytes.toLE 2 (f.data place).length)).length =
        front.length + 4 := by
      rw [List.length_append, List.length_append, Bytes.length_toLE, Bytes.length_toLE]
    have hrecord : (front ++ (bytes16 f.id ++ Bytes.toLE 2 (f.data place).length) ++
        f.data place).length = front.length + 4 + (f.data place).length := by
      rw [List.length_append, hheader]
    have hpayload : buf.toList = front ++ (bytes16 f.id ++ Bytes.toLE 2 (f.data place).length) ++
        (f.data place ++ (y ++ tail)) := by
      rw [hbuf]
      simp only [List.append_assoc]
    have hspan := span_append hpayload
    rw [← List.append_assoc] at hpayload
    obtain ⟨records, hslots, hrecords⟩ := ih hy hpayload
    rw [hrecord] at hslots
    rw [hheader] at hspan
    refine ⟨{ id := f.id, offset := front.length + 4, length := (f.data place).length } :: records,
      ?_, ?_⟩
    · rw [List.append_assoc, slots_append _ _ hsize, hslots]
    · rw [List.mapM_cons, bind_eq_ok_iff]
      refine ⟨g, ?_, bind_eq_ok_iff.2 ⟨parsed, hrecords, rfl⟩⟩
      rw [Slot.fill, hf.parse_eq _ _ hspan]

/-- The stream of well-formed records, with bytes behind them that start with no record, is read as
records with the same payloads, and those bytes. -/
theorem parse_append {place : Place} {fields parsed : List (Field κ)}
    (h : List.Forall₂ (Field.Replays place) fields parsed) {bs tail : Bytes}
    (hmerge : merge place fields = .ok bs) (htail : ¬StartsWithRecord tail) :
    (Registry.builtin : Registry κ).parse place .keep (bs ++ tail) =
      .ok (parsed ++ if tail.isEmpty then [] else [.leftover (.ofBytes place tail)]) := by
  have hbuf : (bs ++ tail).toArray.toList = [] ++ (bs ++ tail) := rfl
  obtain ⟨records, hslots, hrecords⟩ := mapM_fill_eq_ok h hmerge htail hbuf
  rw [List.length_nil] at hslots
  simp only [Registry.parse, hslots, hrecords]
  cases tail with
  | nil =>
    rw [List.isEmpty_nil, if_pos rfl, List.append_nil]
    rfl
  | cons b tail => rfl

/-! ### Fields with left-over bytes in last place -/

/-- The second field is written as the first, and has the same values locally. -/
structure Field.Restores (place : Place) (f g : Field κ) : Prop where
  toStream_eq : g.toStream place = f.toStream place
  id_eq : g.id = f.id
  agrees : place = .localHeader → f.AgreesLocally g

private theorem Field.Replays.restores {place : Place} {f g : Field κ} (h : Replays place f g) :
    Restores place f g :=
  ⟨h.toStream_eq, h.id_eq, h.agrees⟩

/-- What the left-over bytes of a header are read as, is written as these bytes. -/
theorem Field.restores_leftover (place : Place) (l : Leftover) :
    Restores place (.leftover l : Field κ) (.leftover (.ofBytes place (Record.data place l))) := by
  cases place with
  | localHeader => exact ⟨rfl, rfl, fun _ => .leftover rfl⟩
  | central => exact ⟨rfl, rfl, fun h => nomatch h⟩

/-- Fields are written alike if each of them is. -/
theorem merge_eq_of_forall₂ {place : Place} {fs gs : List (Field κ)}
    (h : List.Forall₂ (fun f g => g.toStream place = f.toStream place) fs gs) :
    merge place gs = merge place fs := by
  have hmapM : gs.mapM (Field.toStream place) = fs.mapM (Field.toStream place) := by
    induction h with
    | nil => rfl
    | cons hfg _ ih => rw [List.mapM_cons, List.mapM_cons, hfg, ih]
  rw [merge, merge, hmapM]

theorem exists_merge_eq_ok {place : Place} {fields : List (Field κ)}
    (h : ∀ f ∈ fields, (f.data place).length ≤ 65535) : ∃ bs, merge place fields = .ok bs := by
  induction fields with
  | nil => exact ⟨[], rfl⟩
  | cons f fields ih =>
    obtain ⟨back, hback⟩ := ih fun x hx => h x (List.mem_cons_of_mem _ hx)
    have hfront : ∃ front, f.toStream place = .ok front := by
      cases hf : f.isLeftover with
      | true => exact ⟨_, by rw [Field.toStream, hf, if_pos rfl]⟩
      | false =>
        exact ⟨_, (Field.toStream_eq_ok_iff hf).2 ⟨h f (List.mem_cons_self ..), rfl⟩⟩
    obtain ⟨front, hfront⟩ := hfront
    exact ⟨front ++ back, merge_cons_eq_ok_iff.2 ⟨front, back, hfront, hback, rfl⟩⟩

/-- Fields with left-over bytes behind them, if there are any. -/
def endedBy (fields : List (Field κ)) (last? : Option Leftover) : List (Field κ) :=
  fields ++ last?.toList.map .leftover

/-- Whatever is written is read. Records that operations lead to, and left-over bytes behind them
that do not look like a record, are written; what was written is read as records with the same ids
in the same order, which are written as the same bytes, and which in the local header have the same
values. -/
theorem parse_merge (place : Place) {fields : List (Field κ)} {last? : Option Leftover}
    (hreachable : ∀ f ∈ fields, f.Reachable)
    (hsize : ∀ f ∈ fields, (f.data place).length ≤ 65535)
    (hlast : ∀ l ∈ last?, Record.data place l ≠ [] ∧ ¬StartsWithRecord (Record.data place l)) :
    ∃ bs parsed, merge place (endedBy fields last?) = .ok bs ∧
      (Registry.builtin : Registry κ).parse place .keep bs = .ok parsed ∧
      parsed.map Field.id = (endedBy fields last?).map Field.id ∧
      merge place parsed = .ok bs ∧
      (place = .localHeader → List.Forall₂ Field.AgreesLocally (endedBy fields last?) parsed) := by
  obtain ⟨parsed, hparsed⟩ :=
    Field.exists_forall₂_replays (fun f hf => (hreachable f hf).wellFormed) place
  obtain ⟨bs, hbs⟩ := exists_merge_eq_ok hsize
  -- left-over bytes, if there are any, are the tail of the stream
  have hwhole : ∃ tail all, merge place (endedBy fields last?) = .ok (bs ++ tail) ∧
      (Registry.builtin : Registry κ).parse place .keep (bs ++ tail) = .ok all ∧
      List.Forall₂ (Field.Restores place) (endedBy fields last?) all := by
    have hrestores := hparsed.imp fun _ _ hfg => hfg.restores
    cases last? with
    | none =>
      have hnil : ¬StartsWithRecord [] := by
        rintro ⟨_, _, _, _, _, h, -⟩
        cases h
      have hread := parse_append hparsed hbs hnil
      rw [List.isEmpty_nil, if_pos rfl, List.append_nil parsed] at hread
      have hfields : endedBy fields none = fields := List.append_nil fields
      rw [hfields]
      exact ⟨[], parsed, by rw [hbs, List.append_nil], hread, hrestores⟩
    | some l =>
      obtain ⟨hne, htail⟩ := hlast l rfl
      have hread := parse_append hparsed hbs htail
      rw [if_neg (by simpa using hne)] at hread
      refine ⟨Record.data place l, _, ?_, hread, ?_⟩
      · refine merge_append_eq_ok_iff.2 ⟨bs, _, hbs, merge_cons_eq_ok_iff.2 ?_, rfl⟩
        exact ⟨_, [], Field.toStream_leftover l, rfl, (List.append_nil _).symm⟩
      · exact List.rel_append hrestores (.cons (Field.restores_leftover place l) .nil)
  obtain ⟨tail, all, hmerge, hread, hall⟩ := hwhole
  refine ⟨bs ++ tail, all, hmerge, hread, ?_, ?_, fun hplace => ?_⟩
  · exact map_eq_of_forall₂ (hall.imp fun _ _ hfg => hfg.id_eq)
  · exact (merge_eq_of_forall₂ (hall.imp fun _ _ hfg => hfg.toStream_eq)).trans hmerge
  · exact hall.imp fun _ _ hfg => hfg.agrees hplace

/-- A record that was made, one that was changed twice, one that was read, and a blob. -/
def sampleFields : List (Field Empty) :=
  [.zip64 { disk? := some 3 },
    .timestamp ((({} : Timestamp).setModify (some 5)).setAccess (some 7)),
    .ownership { userBytes := [232, 3, 0], groupBytes := [] },
    .unrecognized (({ id := 0x9999 } : Opaque).setLocal [1, 2, 3])]

private theorem reachable_of_mem_sampleFields : ∀ f ∈ sampleFields, f.Reachable := by
  have hread : (Field.ownership (.ofIds 7 7) : Field Empty).parse .localHeader
      #[1, 3, 232, 3, 0, 0] 0 6 =
        (.ok (), .ownership { userBytes := [232, 3, 0], groupBytes := [] }) := by decide +kernel
  refine List.forall_mem_cons.2 ⟨.changed (.made .zip64) (.disk {} (some 3)), ?_⟩
  refine List.forall_mem_cons.2
    ⟨.changed (.changed (.made .timestamp) (.modify {} (some 5))) (.access _ (some 7)), ?_⟩
  refine List.forall_mem_cons.2 ⟨.parsed (.made (.ownership 7 7)) hread, ?_⟩
  refine List.forall_mem_singleton.2
    (.changed (.made (.unrecognized (.inl rfl))) (.unrecognizedLocal _ [1, 2, 3]))

/-- Behind these records, left-over bytes that announce a payload of nine bytes and hold one. -/
theorem parse_merge_sampleFields :
    ∃ bs parsed,
      merge .localHeader (endedBy sampleFields (some { localCopy := [1, 0, 9, 0, 5] })) = .ok bs ∧
      (Registry.builtin : Registry Empty).parse .localHeader .keep bs = .ok parsed ∧
      parsed.map Field.id =
        (endedBy sampleFields (some { localCopy := [1, 0, 9, 0, 5] })).map Field.id ∧
      merge .localHeader parsed = .ok bs ∧
      (Place.localHeader = .localHeader → List.Forall₂ Field.AgreesLocally
        (endedBy sampleFields (some { localCopy := [1, 0, 9, 0, 5] })) parsed) := by
  refine parse_merge .localHeader reachable_of_mem_sampleFields (by decide +kernel) ?_
  rintro l hl
  obtain rfl := Option.some.inj hl
  refine ⟨by decide, ?_⟩
  rintro ⟨_, _, _, _, _, hbytes, hlength⟩
  cases hbytes
  exact absurd hlength (by decide)

end ZipArchive.Extra
