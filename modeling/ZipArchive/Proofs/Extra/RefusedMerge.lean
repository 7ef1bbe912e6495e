import ZipArchive.Proofs.Extra.Kinds
import ZipArchive.Proofs.Extra.Refusals
import ZipArchive.Proofs.Extra.Remainder

/-!
# Central headers that are refused

The stream of a central header is read before anything of it comes in, so that one that cannot be
read changes nothing. After that its records come in one after the other, and one of them may be
refused by the record of the list that has its id, though the registry could read it. The records
before it came in by then, and stay: `FieldList.mergeAll_of_error`. What the record that refuses is
afterwards is up to it, and one of this library is what it was.

If all records are of this library, and of the kind that the registry has for their ids,
`FieldList.AgreesWith`, then what the registry can read is not refused, `FieldList.mergeAll_accepts`.
`Entry.mergeCentralExtra_of_error` says what an entry is after a header was refused, and that it is
as it was if its records agree with the registry. `Entry.mergeCentralExtra_sampleMarker` is an entry
that is not.
-/

namespace ZipArchive.Extra

variable {κ : Type}

private theorem mapState_eq_error_iff {σ τ : Type} {f : σ → τ} {o : Outcome σ Unit} {e : Fault}
    {t : τ} : o.mapState f = (.error e, t) ↔ ∃ s, o = (.error e, s) ∧ f s = t := by
  obtain ⟨result, s⟩ := o
  simp [Outcome.mapState]

variable [Record κ]

namespace FieldList

variable {fields merged : FieldList κ} {new : Field κ} {e : Fault}

/-! ### Where it stops -/

/-- Left-over bytes are never refused. -/
theorem read_leftover (l : Leftover) (payload : Bytes) :
    ((Field.leftover l : Field κ).read .central payload).1 = .ok () :=
  congrArg Prod.fst (inSpan_self l payload _)

/-- A record that does not come in was refused by the record that has its id, and all others stay
as they were. -/
theorem mergeOne_of_error (h : mergeOne fields new = (.error e, merged)) :
    ∃ front old back refused, fields = front ++ old :: back ∧
      (old.isLeftover = false ∧ new.isLeftover = false ∧ old.id = new.id) ∧
      old.read .central (new.data .central) = (.error e, refused) ∧
      merged = front ++ refused :: back := by
  rw [mergeOne] at h
  rcases updateFirst_cases (if new.isLeftover then Field.isLeftover else Field.hasId new.id) fields
    with ⟨front, old, back, rfl, hold, hop⟩ | ⟨-, hop⟩
  · rw [hop, Option.getD_some] at h
    obtain ⟨refused, hread, rfl⟩ := mapState_eq_error_iff.1 h
    refine ⟨front, old, back, refused, rfl, ?_, hread, rfl⟩
    cases hnew : new.isLeftover with
    | false =>
      rw [hnew, if_neg Bool.false_ne_true] at hold
      obtain ⟨hrecord, hid⟩ := Bool.and_eq_true_iff.1 hold
      exact ⟨by simpa using hrecord, rfl, by simpa using hid⟩
    | true =>
      rw [hnew, if_pos rfl] at hold
      cases old with
      | leftover l => cases (congrArg Prod.fst hread).symm.trans (read_leftover l _)
      | _ => cases hold
  · rw [hop, Option.getD_none] at h
    cases h

/-- When records do not all come in, one of them does not, and those before it did. -/
theorem mergeAll_of_error {news : List (Field κ)} (h : mergeAll fields news = (.error e, merged)) :
    ∃ before new after between, news = before ++ new :: after ∧
      mergeAll fields before = (.ok (), between) ∧ mergeOne between new = (.error e, merged) := by
  induction news generalizing fields with
  | nil => cases h
  | cons new news ih =>
    rw [mergeAll] at h
    split at h
    case h_1 first hfirst =>
      obtain ⟨before, bad, after, between, rfl, hbefore, hbad⟩ := ih h
      exact ⟨new :: before, bad, after, between, rfl,
        mergeAll_cons_eq_ok_iff.2 ⟨first, hfirst, hbefore⟩, hbad⟩
    case h_2 => exact ⟨[], new, news, fields, rfl, rfl, h⟩

/-! ### Records of the kinds of a registry -/

end FieldList

/-- The record is of this library, and of the kind that the registry has for its id. -/
structure Field.AgreesWith (f : Field κ) (reg : Registry κ) : Prop where
  isBuiltin : f.IsBuiltin
  blank_eq : f.blank = (reg.create f.id).blank

/-- The registry has records of this library only, each with the id that it is for. -/
structure Registry.IsSound (reg : Registry κ) : Prop where
  isBuiltin : reg.IsBuiltin
  id_create (id : UInt16) : (reg.create id).id = id

private theorem Registry.isSound_builtin : (Registry.builtin : Registry κ).IsSound where
  isBuiltin := isBuiltin_builtin
  id_create id := (receives_builtin id).id_eq

/-- All records agree with the registry. -/
def FieldList.AgreesWith (fields : FieldList κ) (reg : Registry κ) : Prop :=
  ∀ f ∈ fields, f.isLeftover = false → f.AgreesWith reg

namespace Field

variable {f g new : Field κ} {reg : Registry κ}

/-- A record of the kind of another agrees with the registry too. -/
theorem AgreesWith.of_blank_eq (h : f.AgreesWith reg) (hblank : g.blank = f.blank) :
    g.AgreesWith reg where
  isBuiltin := (isBuiltin_blank_iff g).1 (hblank ▸ (isBuiltin_blank_iff f).2 h.isBuiltin)
  blank_eq := by
    have hid : g.id = f.id := by rw [← id_blank g, hblank, id_blank]
    rw [hblank, hid, h.blank_eq]

private theorem AgreesWith.parse (h : f.AgreesWith reg) (buf : Array UInt8) (offset length : Nat) :
    (f.parse .central buf offset length).2.AgreesWith reg :=
  h.of_blank_eq (blank_parse h.isBuiltin buf offset length)

/-- A record that the registry read agrees with it. -/
theorem AgreesWith.of_read (hreg : reg.IsSound) {id : UInt16} {payload : Bytes}
    (h : (reg.create id).read .central payload = (.ok (), g)) : g.AgreesWith reg := by
  have hbuiltin := hreg.isBuiltin.create id
  have hself : (reg.create id).AgreesWith reg := ⟨hbuiltin, by rw [hreg.id_create]⟩
  have hparse := hself.parse payload.toArray 0 payload.length
  have hg : ((reg.create id).parse .central payload.toArray 0 payload.length).2 = g :=
    congrArg Prod.snd h
  rwa [hg] at hparse

end Field

namespace FieldList

variable {fields merged : FieldList κ} {new : Field κ} {reg : Registry κ}

/-- A list that agrees with a registry does so when a record of the registry came in. -/
theorem AgreesWith.mergeOne (h : fields.AgreesWith reg)
    (hnew : new.isLeftover = false → new.AgreesWith reg) :
    (fields.mergeOne new).2.AgreesWith reg := by
  rw [FieldList.mergeOne]
  rcases updateFirst_cases (if new.isLeftover then Field.isLeftover else Field.hasId new.id) fields
    with ⟨front, old, back, rfl, -, hop⟩ | ⟨-, hop⟩
  · rw [hop, Option.getD_some]
    intro f hf hrecord
    rcases List.mem_append.1 hf with hf | hf
    · exact h f (List.mem_append_left _ hf) hrecord
    · rcases List.mem_cons.1 hf with rfl | hf
      · have hold := old.isLeftover_parse .central (new.data .central).toArray 0
          (new.data .central).length
        refine (h old (List.mem_append_right _ (List.mem_cons_self ..)) ?_).parse _ _ _
        exact hold.symm.trans hrecord
      · exact h f (List.mem_append_right _ (List.mem_cons_of_mem _ hf)) hrecord
  · rw [hop, Option.getD_none]
    intro f hf hrecord
    rcases mem_of_mem_add hf with rfl | hf
    · exact hnew hrecord
    · exact h f hf hrecord

private theorem AgreesWith.mergeAll {news : List (Field κ)} (h : fields.AgreesWith reg)
    (hnews : ∀ new ∈ news, new.isLeftover = false → new.AgreesWith reg)
    (hmerged : fields.mergeAll news = (.ok (), merged)) : merged.AgreesWith reg := by
  induction news generalizing fields with
  | nil =>
    obtain rfl : fields = merged := congrArg Prod.snd hmerged
    exact h
  | cons new news ih =>
    obtain ⟨hnew, hnews⟩ := List.forall_mem_cons.1 hnews
    obtain ⟨between, hfirst, hrest⟩ := mergeAll_cons_eq_ok_iff.1 hmerged
    have hbetween := h.mergeOne hnew
    rw [hfirst] at hbetween
    exact ih hbetween hnews hrest

end FieldList

/-! ### What a registry reads is not refused -/

/-- What the registry could read is not refused by a record with the id that agrees with it. -/
theorem Field.AgreesWith.result_read {old new : Field κ} {reg : Registry κ} (hreg : reg.IsSound)
    (hold : old.AgreesWith reg) {id : UInt16} {payload : Bytes}
    (hnew : (reg.create id).read .central payload = (.ok (), new)) (hid : old.id = new.id) :
    (old.read .central (new.data .central)).1 = .ok () := by
  have hbuiltin := hreg.isBuiltin.create id
  have hblank : old.blank = (reg.create id).blank := by
    have hkind := Field.blank_parse hbuiltin payload.toArray 0 payload.length
    have hparse : (reg.create id).parse .central payload.toArray 0 payload.length =
      (.ok (), new) := hnew
    rw [hparse] at hkind
    rw [hold.blank_eq, hid, ← (Field.AgreesWith.of_read hreg hnew).blank_eq, hkind]
  rw [Field.result_read_of_blank_eq hold.isBuiltin hbuiltin hblank]
  exact Field.read_data_central hbuiltin hnew

/-- The records of a stream are what the registry made of their payloads. -/
theorem Registry.exists_read_of_parse {reg : Registry κ} (hreg : reg.IsBuiltin) {place : Place}
    {remainder : Remainder} {data : Bytes} {parsed : List (Field κ)}
    (h : reg.parse place remainder data = .ok parsed) :
    ∀ new ∈ parsed, new.isLeftover = false →
      ∃ id payload, (reg.create id).read place payload = (.ok (), new) := by
  obtain ⟨records, tail, rfl, htail⟩ := RawRecord.exists_records data
  rw [parse_stream hreg.create remainder records htail] at h
  obtain ⟨own, hown, h⟩ := bind_eq_ok_iff.1 h
  have hread : ∀ new ∈ own, ∃ id payload, (reg.create id).read place payload = (.ok (), new) := by
    intro new hnew
    obtain ⟨r, -, hr⟩ := exists_of_mem_forall₂ (mapM_eq_ok_iff.1 hown) hnew
    exact ⟨r.id, r.payload, RawRecord.read_eq_ok_iff.1 hr⟩
  intro new hnew hrecord
  split at h
  case isTrue =>
    obtain rfl := Except.ok.inj h
    exact hread new hnew
  case isFalse =>
    cases remainder with
    | refuse => cases h
    | keep =>
      obtain rfl := Except.ok.inj h
      rcases List.mem_append.1 hnew with hnew | hnew
      · exact hread new hnew
      · obtain rfl := List.mem_singleton.1 hnew
        cases hrecord

/-- A stream that the registry reads comes into a list that agrees with it. -/
theorem FieldList.AgreesWith.mergeAll_parsed {fields : FieldList κ} {reg : Registry κ}
    (h : fields.AgreesWith reg) (hreg : reg.IsSound) {stream : Bytes} {parsed : List (Field κ)}
    (hparse : reg.parse .central .keep stream = .ok parsed) (e : Fault) (merged : FieldList κ) :
    fields.mergeAll parsed ≠ (.error e, merged) := by
  intro herror
  have hread := Registry.exists_read_of_parse hreg.isBuiltin hparse
  have hagrees : ∀ new ∈ parsed, new.isLeftover = false → new.AgreesWith reg := by
    intro new hnew hrecord
    obtain ⟨id, payload, hr⟩ := hread new hnew hrecord
    exact .of_read hreg hr
  -- the record that is refused, and the one that refuses it
  obtain ⟨before, new, after, between, rfl, hbefore, hbad⟩ := mergeAll_of_error herror
  obtain ⟨front, old, back, refused, rfl, ⟨hold, hnew, hid⟩, hrefused, -⟩ := mergeOne_of_error hbad
  have hbetween : AgreesWith (front ++ old :: back) reg :=
    h.mergeAll (fun n hn => hagrees n (List.mem_append_left _ hn)) hbefore
  obtain ⟨id, payload, hr⟩ := hread new (List.mem_append_right _ (List.mem_cons_self ..)) hnew
  have hok := (hbetween old (List.mem_append_right _ (List.mem_cons_self ..)) hold).result_read
    hreg hr hid
  rw [hrefused] at hok
  cases hok

end ZipArchive.Extra

namespace ZipArchive.Entry

open ZipArchive.Extra

variable {κ : Type} [Record κ]

/-- After a central header was refused, either it could not be read and the entry is as it was, or
one of its records was refused by the record of the entry that has its id: the records before it
came in, and no other ones. A record of this library that refuses is as it was, so that the entry is
just if those before changed nothing. If the records of the entry are those of the registry, only
headers that cannot be read are refused. -/
theorem mergeCentralExtra_of_error {e e' : Entry κ} {reg : Registry κ} {stream : Bytes}
    {fault : Fault} (h : e.mergeCentralExtra reg stream = (.error fault, e')) :
    (reg.parse .central .keep stream = .error fault ∧ e' = e ∨
      ∃ before new after front old back refused,
        reg.parse .central .keep stream = .ok (before ++ new :: after) ∧
        e.extra.mergeAll before = (.ok (), front ++ old :: back) ∧
        (old.isLeftover = false ∧ new.isLeftover = false ∧ old.id = new.id) ∧
        old.read .central (new.data .central) = (.error fault, refused) ∧
        e' = { e with extra := front ++ refused :: back } ∧
        (old.IsBuiltin → refused = old ∧ (e' = e ↔ front ++ old :: back = e.extra))) ∧
    (reg.IsSound → e.extra.AgreesWith reg →
      reg.parse .central .keep stream = .error fault ∧ e' = e) := by
  obtain ⟨merged, hmerge, rfl⟩ := mapState_eq_error_iff.1 h
  rw [FieldList.mergeCentral] at hmerge
  cases hparse : reg.parse .central .keep stream with
  | error fault' =>
    rw [hparse] at hmerge
    obtain ⟨hfault, rfl⟩ := Prod.mk.inj hmerge
    have hsame : Except.error fault' = (.error fault : Except Fault (List (Extra.Field κ))) :=
      congrArg Except.error (Except.error.inj hfault)
    exact ⟨.inl ⟨hsame, rfl⟩, fun _ _ => ⟨hsame, rfl⟩⟩
  | ok parsed =>
    rw [hparse] at hmerge
    refine ⟨.inr ?_, fun hreg hagrees => absurd hmerge (hagrees.mergeAll_parsed hreg hparse _ _)⟩
    obtain ⟨before, new, after, between, rfl, hbefore, hbad⟩ := FieldList.mergeAll_of_error hmerge
    obtain ⟨front, old, back, refused, rfl, hids, hrefused, rfl⟩ :=
      FieldList.mergeOne_of_error hbad
    refine ⟨before, new, after, front, old, back, refused, rfl, hbefore, hids, hrefused, rfl,
      fun hold => ?_⟩
    obtain rfl : refused = old := Extra.Field.failsIn_parse_central hold _ _ _ _ _ hrefused
    exact ⟨rfl, fun hsame => congrArg extra hsame, fun hsame => by rw [hsame]⟩

/-- An entry with the marker of an executable jar. -/
def sampleMarked : Entry Empty :=
  { name := "a", extra := [.jarMarker {}] }

/-- A record with an unknown id, and one with the id of the marker and a payload. -/
def sampleMarker : Bytes :=
  [0x34, 0x12, 1, 0, 0xAA, 0xFE, 0xCA, 1, 0, 0]

private theorem isBuiltin_of_empty (f : Extra.Field Empty) : f.IsBuiltin := by
  induction f with
  | custom r => exact r.elim
  | boxed f ih => exact ih
  | _ => trivial

/-- Without registered ids the stream can be read, and what stands before the record that the marker
refuses comes in. With the registry of this library it cannot be read, and nothing comes in. -/
theorem mergeCentralExtra_of_error_sampleMarked :
    (∃ before new after between,
      (Registry.empty : Registry Empty).parse .central .keep sampleMarker =
        .ok (before ++ new :: after) ∧
      sampleMarked.extra.mergeAll before = (.ok (), between) ∧
      (sampleMarked.mergeCentralExtra .empty sampleMarker).2 =
        { sampleMarked with extra := between }) ∧
    (sampleMarked.mergeCentralExtra .builtin sampleMarker).2 = sampleMarked := by
  have hempty : (sampleMarked.mergeCentralExtra .empty sampleMarker).1 =
      .error (.malformedRecord 0xCAFE "marker must be empty, found 1 bytes") := by decide +kernel
  have hbuiltin : (sampleMarked.mergeCentralExtra .builtin sampleMarker).1 =
      .error (.malformedRecord 0xCAFE "marker must be empty, found 1 bytes") := by decide +kernel
  have hagrees : FieldList.AgreesWith sampleMarked.extra .builtin := by
    intro f hf _
    obtain rfl := List.mem_singleton.1 hf
    exact ⟨trivial, rfl⟩
  constructor
  · rcases (mergeCentralExtra_of_error (Prod.ext hempty rfl)).1 with ⟨hparse, -⟩ |
      ⟨before, new, after, front, old, back, refused, hparse, hbefore, -, -, hleft, hrefused⟩
    · have hread : (Registry.empty : Registry Empty).parse .central .keep sampleMarker =
          .ok [.unrecognized { id := 0x1234, localCopy := [0xAA], centralCopy? := some [0xAA] },
            .unrecognized { id := 0xCAFE, localCopy := [0], centralCopy? := some [0] }] := by
        decide +kernel
      cases hread.symm.trans hparse
    · obtain ⟨rfl, -⟩ := hrefused (isBuiltin_of_empty old)
      exact ⟨before, new, after, _, hparse, hbefore, hleft⟩
  · exact ((mergeCentralExtra_of_error (Prod.ext hbuiltin rfl)).2 Registry.isSound_builtin
      hagrees).2

/-- The record before the one that is refused came in, and stays. -/
theorem mergeCentralExtra_sampleMarker :
    (sampleMarked.mergeCentralExtra .empty sampleMarker).1 =
      .error (.malformedRecord 0xCAFE "marker must be empty, found 1 bytes") ∧
    (sampleMarked.mergeCentralExtra .empty sampleMarker).2.extra =
      [.jarMarker {},
        .unrecognized { id := 0x1234, localCopy := [0xAA], centralCopy? := some [0xAA] }] ∧
    sampleMarked.extraData .localHeader = .ok [0xFE, 0xCA, 0, 0] ∧
    (sampleMarked.mergeCentralExtra .empty sampleMarker).2.extraData .localHeader =
      .ok [0xFE, 0xCA, 0, 0, 0x34, 0x12, 1, 0, 0xAA] := by
  refine ⟨?_, ?_, ?_, ?_⟩
  all_goals decide +kernel

end ZipArchive.Entry
