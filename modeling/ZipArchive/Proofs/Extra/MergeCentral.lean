import ZipArchive.Entry
import ZipArchive.Proofs.Extra.CentralCopies
import ZipArchive.Proofs.Extra.FieldList
import ZipArchive.Proofs.Extra.Rewriting
import ZipArchive.Proofs.Forall2

/-!
# Bringing in the records of a central header

The records of a central header come into a list of records one after the other. Where an id stands
in the list, the record there takes the payload in; a record with a new id goes behind the others,
`FieldList.StepsTo`. After all of them, each record of the list has taken in the payloads for its id
in turn, and there is one record more for each id that was new, `FieldList.RunsTo`. That one record
is brought in so, and then all of them, is `FieldList.mergeOne_record` and
`FieldList.mergeAll_records`. Bytes that form no record keep the last place, and what they are in
the local header.

So after the records of a local header those of the central header of the same entry can be brought
in, and the local header is written with the same records as before and new ones behind them:
`Entry.extraData_of_mergeCentralExtra`. The payloads are the same too, but for values that a record
holds once for both headers. These are taken over, `RawRecord.payloadAfter`, so that the local
stream is not always the same as before: `Entry.extraData_samplePath_changes`. One case is left out:
a blob that the local header holds without a payload counts as one that it does not hold, and takes
the first payload of the central header for both. `RawRecord.HoldsOwn` says that a record is no such
blob.
-/

namespace ZipArchive.Extra

variable {κ : Type}

/-! ### Lists of which left-over bytes are the last -/

namespace FieldList

/-- The first field that satisfies `p` splits the list, and what becomes of it stands in its
place. -/
theorem updateFirst_cases (p : Field κ → Bool) (fields : FieldList κ) :
    (∃ before old after, fields = before ++ old :: after ∧ p old = true ∧
      ∀ op, updateFirst p op fields = some ((op old).mapState fun f => before ++ f :: after)) ∨
    ((∀ f ∈ fields, p f = false) ∧ ∀ op, updateFirst p op fields = none) := by
  induction fields with
  | nil => exact .inr ⟨by simp, fun _ => rfl⟩
  | cons f fs ih =>
    cases hf : p f with
    | true =>
      refine .inl ⟨[], f, fs, rfl, hf, fun op => ?_⟩
      rw [updateFirst, if_pos hf]
      rfl
    | false =>
      rcases ih with ⟨before, old, after, rfl, hold, hop⟩ | ⟨hnone, hop⟩
      · refine .inl ⟨f :: before, old, after, rfl, hold, fun op => ?_⟩
        rw [updateFirst, hf, if_neg Bool.false_ne_true, hop]
        rfl
      · refine .inr ⟨List.forall_mem_cons.2 ⟨hf, hnone⟩, fun op => ?_⟩
        rw [updateFirst, hf, if_neg Bool.false_ne_true, hop]
        rfl

/-- Fields that do not satisfy `p` are passed over. -/
theorem updateFirst_append {p : Field κ → Bool} {before : List (Field κ)}
    (hbefore : ∀ f ∈ before, p f = false) (op : Field κ → Outcome (Field κ) Unit)
    (rest : FieldList κ) :
    updateFirst p op (before ++ rest) =
      (updateFirst p op rest).map (Outcome.mapState (before ++ ·)) := by
  induction before with
  | nil => exact (Option.map_id_apply ..).symm
  | cons f before ih =>
    obtain ⟨hf, hbefore⟩ := List.forall_mem_cons.1 hbefore
    rw [List.cons_append, updateFirst, hf, if_neg Bool.false_ne_true, ih hbefore, Option.map_map]
    rfl

theorem endedBy_cons (f : Field κ) (own : List (Field κ)) (last? : Option Leftover) :
    endedBy (f :: own) last? = f :: endedBy own last? := rfl

/-- Left-over bytes in last place are passed over where records are looked for. -/
theorem updateFirst_endedBy {p : Field κ → Bool} (hp : ∀ l, p (.leftover l) = false)
    (op : Field κ → Outcome (Field κ) Unit) (own : List (Field κ)) (last? : Option Leftover) :
    updateFirst p op (endedBy own last?) =
      (updateFirst p op own).map (Outcome.mapState (endedBy · last?)) := by
  induction own with
  | nil =>
    cases last? with
    | none => rfl
    | some l => simp [endedBy, updateFirst, hp]
  | cons f own ih =>
    rw [endedBy_cons, updateFirst, updateFirst, ih]
    split
    case isTrue => rfl
    case isFalse =>
      rw [Option.map_map, Option.map_map]
      rfl

/-- A record is added before left-over bytes in last place. -/
theorem insertLast_endedBy (new : Field κ) {own : List (Field κ)}
    (hown : ∀ f ∈ own, f.isLeftover = false) (last? : Option Leftover) :
    insertLast new (endedBy own last?) = endedBy (own ++ [new]) last? := by
  induction own with
  | nil =>
    cases last? with
    | none => rfl
    | some l => rfl
  | cons f own ih =>
    obtain ⟨hf, hown⟩ := List.forall_mem_cons.1 hown
    have hrest := ih hown
    rw [List.cons_append, endedBy_cons, endedBy_cons, ← hrest]
    cases endedBy own last? with
    | nil => simp [insertLast, hf]
    | cons g gs => rfl

variable [Record κ]

/-- A record with a new id is added before left-over bytes in last place. -/
theorem add_endedBy {new : Field κ} (hnew : new.isLeftover = false) {own : List (Field κ)}
    (hown : ∀ f ∈ own, f.isLeftover = false) (hid : new.id ∉ own.map Field.id)
    (last? : Option Leftover) : add (endedBy own last?) new = endedBy (own ++ [new]) last? := by
  have hnone : ∀ f ∈ endedBy own last?, f.hasId new.id = false := by
    intro f hf
    rcases List.mem_append.1 hf with hf | hf
    · have hne : f.id ≠ new.id := fun h => hid (h ▸ List.mem_map_of_mem hf)
      simp [Field.hasId, hne]
    · obtain ⟨l, -, rfl⟩ := List.mem_map.1 hf
      rfl
  rcases replaceFirst?_cases (Field.hasId new.id) (endedBy own last?) with
    ⟨before, old, after, hsplit, hold, -, -⟩ | ⟨-, hreplaced⟩
  · have hmem : old ∈ endedBy own last? := by
      rw [hsplit]
      exact List.mem_append_right _ (List.mem_cons_self ..)
    exact absurd ((hnone old hmem).symm.trans hold) Bool.false_ne_true
  · rw [add, hnew, if_neg Bool.false_ne_true, hreplaced, Option.getD_none,
      insertLast_endedBy new hown]

end FieldList

/-! ### One record -/

/-- The left-over bytes of a list when those of a central header come in. -/
def Leftover.joined (last? : Option Leftover) (new : Leftover) : Leftover :=
  match last? with
  | none => new
  | some l => { l with centralCopy? := some (Record.centralData new) }

/-- The left-over bytes of a list when those of a central header come in, if there are any. -/
def Leftover.joined? (last? new? : Option Leftover) : Option Leftover :=
  new?.elim last? fun new => some (.joined last? new)

namespace Field

variable [Record κ]

/-- The second field is the first after a central payload came in for records with an id. -/
def TakesIn (id : UInt16) (payload : Bytes) (f g : Field κ) : Prop :=
  if f.id = id then ReadsTo payload .central f g else g = f

/-- Records with another id stay as they are. -/
theorem TakesIn.of_ne {id : UInt16} {payload : Bytes} {f : Field κ} (h : f.id ≠ id) :
    TakesIn id payload f f :=
  (if_neg h).mpr rfl

theorem id_ne_of_nodup {before after : List (Field κ)} {old : Field κ}
    (h : ((before ++ old :: after).map id).Nodup) :
    ∀ f, f ∈ before ∨ f ∈ after → f.id ≠ old.id := by
  rw [List.map_append, List.map_cons] at h
  obtain ⟨-, hback, hacross⟩ := List.nodup_append.1 h
  rintro f (hf | hf) hid
  · exact hacross _ (List.mem_map_of_mem hf) _ (List.mem_cons_self ..) hid
  · exact (List.nodup_cons.1 hback).1 (hid ▸ List.mem_map_of_mem hf)

/-- The record is of this library, and its local payload can be written. -/
structure Writable (f : Field κ) : Prop where
  isOwn : f.IsOwn
  isLeftover_eq : f.isLeftover = false
  length_le : (f.data .localHeader).length ≤ 65535

private theorem Writable.of_readsTo {f g : Field κ} {payload : Bytes} (hf : f.Writable)
    (hpayload : payload.length ≤ 65535) (h : ReadsTo payload .central f g) : g.Writable where
  isOwn := h.isOwn
  isLeftover_eq := h.isLeftover_eq.trans hf.isLeftover_eq
  length_le := h.length_localData_le hpayload hf.length_le

/-- The payloads for an id, in the order of the records. -/
def centralPayloads (id : UInt16) (news : List (Field κ)) : List Bytes :=
  (news.filter (Field.id · = id)).map (data .central)

theorem TakesIn.id_eq {id : UInt16} {payload : Bytes} {f g : Field κ}
    (h : TakesIn id payload f g) : g.id = f.id := by
  rw [TakesIn] at h
  split at h
  case isTrue => exact h.id_eq
  case isFalse => rw [h]

private theorem Writable.of_takesIn {id : UInt16} {payload : Bytes} {f g : Field κ}
    (hf : f.Writable) (hpayload : payload.length ≤ 65535) (h : TakesIn id payload f g) :
    g.Writable := by
  rw [TakesIn] at h
  split at h
  case isTrue => exact hf.of_readsTo hpayload h
  case isFalse => exact h ▸ hf

/-- What a field takes in of records that come in one after the other. -/
theorem ReadsAll.of_takesIn {new f g h : Field κ} {news : List (Field κ)}
    (hnew : TakesIn new.id (new.data .central) f g)
    (hrest : ReadsAll (centralPayloads g.id news) g h) :
    ReadsAll (centralPayloads f.id (new :: news)) f h := by
  rw [hnew.id_eq] at hrest
  rw [TakesIn] at hnew
  split at hnew
  case isTrue hid =>
    have hcons : centralPayloads f.id (new :: news) =
        new.data .central :: centralPayloads f.id news := by
      simp [centralPayloads, hid]
    exact hcons ▸ .cons hnew hrest
  case isFalse hid =>
    have hskip : centralPayloads f.id (new :: news) = centralPayloads f.id news := by
      simp [centralPayloads, Ne.symm hid]
    obtain rfl : g = f := hnew
    rwa [hskip]

end Field

/-! ### All records of a header -/

namespace FieldList

open ZipArchive.Extra.Field (ReadsTo ReadsAll TakesIn Writable centralPayloads)

variable [Record κ]

/-- Left-over bytes come in: they come last. -/
theorem mergeOne_leftover {own : List (Field κ)} (hown : ∀ f ∈ own, f.isLeftover = false)
    (last? : Option Leftover) (new : Leftover) :
    mergeOne (endedBy own last?) (.leftover new) =
      (.ok (), endedBy own (some (.joined last? new))) := by
  have hleftover : ∀ l, (Field.leftover l : Field κ).isLeftover = true := fun l => rfl
  have hmerge : mergeOne (endedBy own last?) (.leftover new) =
      ((updateFirst Field.isLeftover (·.read .central (Record.centralData new))
        (last?.toList.map .leftover)).map (Outcome.mapState (own ++ ·))).getD
          (.ok (), add (endedBy own last?) (.leftover new)) := by
    rw [← updateFirst_append hown]
    rfl
  rw [hmerge]
  cases last? with
  | none =>
    have hfilter : own.filter (fun f => !f.isLeftover) = own :=
      List.filter_eq_self.2 fun f hf => by rw [hown f hf, Bool.not_false]
    have hadd : add (endedBy own none) (.leftover new) = own ++ [.leftover new] := by
      rw [add, if_pos (hleftover new), endedBy, Option.toList_none, List.map_nil,
        List.append_nil, hfilter]
    exact congrArg (Prod.mk _) hadd
  | some l =>
    have hread : (Field.leftover l : Field κ).read .central (Record.centralData new) =
        (.ok (), .leftover (.joined (some l) new)) :=
      congrArg (Outcome.mapState Field.leftover) (inSpan_self l (Record.centralData new) _)
    rw [Option.toList_some, List.map_singleton, updateFirst, if_pos (hleftover l), hread]
    rfl

/-- A record came in: `own` became `kept`, and behind it stands the record if its id is new. -/
structure StepsTo (new : Field κ) (own kept added : List (Field κ)) : Prop where
  takes : List.Forall₂ (TakesIn new.id (new.data .central)) own kept
  added_eq : new.id ∈ own.map Field.id ∧ added = [] ∨ new.id ∉ own.map Field.id ∧ added = [new]

/-- Where the id of a record stands in the list, the record there reads the payload, and else it is
added. -/
theorem mergeOne_endedBy {new : Field κ} (hnew : new.isLeftover = false) (own : List (Field κ))
    (last? : Option Leftover) :
    mergeOne (endedBy own last?) new =
      ((updateFirst (Field.hasId new.id) (·.read .central (new.data .central)) own).map
        (Outcome.mapState (endedBy · last?))).getD (.ok (), add (endedBy own last?) new) := by
  rw [← updateFirst_endedBy (fun l => rfl), mergeOne, hnew, if_neg Bool.false_ne_true]
  rfl

/-- A record comes in: where its id stands in the list, the record there takes in the payload, and
else it is added. -/
theorem mergeOne_record {own : List (Field κ)} {last? : Option Leftover} {new : Field κ}
    (hown : ∀ f ∈ own, f.Writable) (hdistinct : (own.map Field.id).Nodup)
    (hnew : new.isLeftover = false) {merged : FieldList κ}
    (h : mergeOne (endedBy own last?) new = (.ok (), merged)) :
    ∃ kept added, merged = endedBy (kept ++ added) last? ∧ StepsTo new own kept added := by
  rw [mergeOne_endedBy hnew] at h
  have hrecords : ∀ f ∈ own, f.isLeftover = false := fun f hf => (hown f hf).isLeftover_eq
  rcases updateFirst_cases (Field.hasId new.id) own with
    ⟨before, old, after, rfl, hold, hop⟩ | ⟨hnone, hop⟩
  · rw [hop, Option.map_some, Option.getD_some] at h
    obtain ⟨kept, hkept, rfl⟩ := mapState_eq_ok_iff.1 h
    obtain ⟨g, hread, rfl⟩ := mapState_eq_ok_iff.1 hkept
    have hmem : old ∈ before ++ old :: after :=
      List.mem_append_right _ (List.mem_cons_self ..)
    have hid : old.id = new.id := by
      simpa [Field.hasId] using (Bool.and_eq_true_iff.1 hold).2
    refine ⟨before ++ g :: after, [], by rw [List.append_nil], ?_, .inl ⟨?_, rfl⟩⟩
    · have hsame : ∀ f, f ∈ before ∨ f ∈ after → TakesIn new.id (new.data .central) f f :=
        fun f hf => .of_ne (hid ▸ Field.id_ne_of_nodup hdistinct f hf)
      have hold : TakesIn new.id (new.data .central) old g :=
        (if_pos hid).mpr (Field.readsTo_of_read (hown old hmem).isOwn hread)
      refine List.rel_append (List.forall₂_same.2 fun f hf => hsame f (.inl hf)) ?_
      exact .cons hold (List.forall₂_same.2 fun f hf => hsame f (.inr hf))
    · exact hid ▸ List.mem_map_of_mem hmem
  · have hid : new.id ∉ own.map Field.id := by
      intro hid
      obtain ⟨f, hf, hfid⟩ := List.mem_map.1 hid
      have hnot := hnone f hf
      simp [Field.hasId, hrecords f hf, hfid] at hnot
    rw [hop, Option.map_none, Option.getD_none, add_endedBy hnew hrecords hid] at h
    refine ⟨own, [new], (congrArg Prod.snd h).symm, ?_, .inr ⟨hid, rfl⟩⟩
    exact List.forall₂_same.2 fun f hf => .of_ne fun hfid => hid (hfid ▸ List.mem_map_of_mem hf)

namespace StepsTo

variable {new : Field κ} {own kept added : List (Field κ)}

theorem map_id_eq (h : StepsTo new own kept added) : kept.map Field.id = own.map Field.id :=
  map_eq_of_forall₂ (h.takes.imp fun _ _ htakes => htakes.id_eq)

theorem writable (h : StepsTo new own kept added) (hown : ∀ f ∈ own, f.Writable)
    (hnew : new.Writable) (hpayload : (new.data .central).length ≤ 65535) :
    ∀ f ∈ kept ++ added, f.Writable := by
  intro g hg
  rcases List.mem_append.1 hg with hg | hg
  · obtain ⟨f, hf, htakes⟩ := exists_of_mem_forall₂ h.takes hg
    exact (hown f hf).of_takesIn hpayload htakes
  · rcases h.added_eq with ⟨-, rfl⟩ | ⟨-, rfl⟩
    · cases hg
    · exact List.mem_singleton.1 hg ▸ hnew

theorem nodup (h : StepsTo new own kept added) (hdistinct : (own.map Field.id).Nodup) :
    ((kept ++ added).map Field.id).Nodup := by
  rw [List.map_append, h.map_id_eq]
  rcases h.added_eq with ⟨-, rfl⟩ | ⟨hid, rfl⟩
  · rwa [List.map_nil, List.append_nil]
  · refine List.nodup_append.2 ⟨hdistinct, List.pairwise_singleton _ _, ?_⟩
    intro id hmem new hnew h
    rw [List.map_singleton, List.mem_singleton] at hnew
    exact hid (hnew ▸ h ▸ hmem)

end StepsTo

theorem mergeAll_cons_eq_ok_iff {fields news merged : FieldList κ} {new : Field κ} :
    mergeAll fields (new :: news) = (.ok (), merged) ↔
      ∃ between, mergeOne fields new = (.ok (), between) ∧
        mergeAll between news = (.ok (), merged) := by
  rw [mergeAll]
  split
  case h_1 between hnew => simp [hnew]
  case h_2 failed hfailed =>
    constructor
    · intro h
      exact absurd h (hfailed merged)
    · rintro ⟨between, h, -⟩
      exact absurd h (hfailed between)

theorem mergeAll_append_eq_ok_iff {fields news more merged : FieldList κ} :
    mergeAll fields (news ++ more) = (.ok (), merged) ↔
      ∃ between, mergeAll fields news = (.ok (), between) ∧
        mergeAll between more = (.ok (), merged) := by
  induction news generalizing fields with
  | nil => simp [mergeAll]
  | cons new news ih =>
    simp only [List.cons_append, mergeAll_cons_eq_ok_iff, ih]
    constructor
    · rintro ⟨first, hfirst, between, hbetween, h⟩
      exact ⟨between, ⟨first, hfirst, hbetween⟩, h⟩
    · rintro ⟨between, ⟨first, hfirst, hbetween⟩, h⟩
      exact ⟨first, hfirst, between, hbetween, h⟩

/-- Records came in: each record of `own` took in the payloads for its id in turn and became one of
`kept`, and behind them stands one record for each id that is new. -/
structure RunsTo (news own kept added : List (Field κ)) : Prop where
  reads : List.Forall₂ (fun f g => ReadsAll (centralPayloads f.id news) f g) own kept
  writable : ∀ f ∈ kept ++ added, f.Writable
  nodup : ((kept ++ added).map Field.id).Nodup
  mem_added_iff : ∀ id, id ∈ added.map Field.id ↔
    id ∈ news.map Field.id ∧ id ∉ own.map Field.id

/-- One record comes in, and the others after it. -/
theorem RunsTo.cons {new : Field κ} {news own between extra kept added : List (Field κ)}
    (hstep : StepsTo new own between extra) (h : RunsTo news (between ++ extra) kept added) :
    ∃ kept' added', kept ++ added = kept' ++ added' ∧ RunsTo (new :: news) own kept' added' := by
  -- what became of the record that was added itself is not among the records of `own`
  obtain ⟨kept', extra', rfl, hkept, hextra⟩ := exists_of_forall₂_append h.reads
  have hids : extra'.map Field.id = extra.map Field.id :=
    map_eq_of_forall₂ (hextra.imp fun f g hfg => hfg.id_eq)
  refine ⟨kept', extra' ++ added, List.append_assoc .., ?_, ?_, ?_, fun id => ?_⟩
  · exact forall₂_comp (fun f g k hfg hgk => .of_takesIn hfg hgk) hstep.takes hkept
  · exact List.append_assoc kept' extra' added ▸ h.writable
  · exact List.append_assoc kept' extra' added ▸ h.nodup
  · rw [List.map_append, List.mem_append, h.mem_added_iff id, hids, List.map_append,
      List.mem_append, hstep.map_id_eq, List.map_cons, List.mem_cons]
    rcases hstep.added_eq with ⟨hid, rfl⟩ | ⟨hid, rfl⟩
    · have hne : id ∉ own.map Field.id → id ≠ new.id := fun hnot h => hnot (h ▸ hid)
      simp only [List.map_nil, List.not_mem_nil, false_or, or_false]
      tauto
    · rw [List.map_singleton, List.mem_singleton]
      by_cases h : id = new.id
      · simp [h, hid]
      · simp [h]

/-- Records come in one after the other. -/
theorem mergeAll_records {own news : List (Field κ)} {last? : Option Leftover}
    (hown : ∀ f ∈ own, f.Writable) (hdistinct : (own.map Field.id).Nodup)
    (hnews : ∀ f ∈ news, f.Writable ∧ (f.data .central).length ≤ 65535) {merged : FieldList κ}
    (h : mergeAll (endedBy own last?) news = (.ok (), merged)) :
    ∃ kept added, merged = endedBy (kept ++ added) last? ∧ RunsTo news own kept added := by
  induction news generalizing own with
  | nil =>
    have hnil : own ++ [] = own := List.append_nil own
    refine ⟨own, [], ?_, List.forall₂_same.2 fun f _ => .nil f, hnil.symm ▸ hown,
      hnil.symm ▸ hdistinct, by simp⟩
    rw [hnil]
    exact (congrArg Prod.snd h).symm
  | cons new news ih =>
    obtain ⟨⟨hnew, hpayload⟩, hnews⟩ := List.forall_mem_cons.1 hnews
    obtain ⟨between, hbetween, h⟩ := mergeAll_cons_eq_ok_iff.1 h
    obtain ⟨own', extra, rfl, hstep⟩ :=
      mergeOne_record hown hdistinct hnew.isLeftover_eq hbetween
    obtain ⟨kept, added, rfl, hrun⟩ :=
      ih (hstep.writable hown hnew hpayload) (hstep.nodup hdistinct) hnews h
    obtain ⟨kept', added', hsame, hall⟩ := RunsTo.cons hstep hrun
    exact ⟨kept', added', by rw [hsame], hall⟩

/-- Left-over bytes come in if there are any. -/
theorem mergeAll_leftover? {own : List (Field κ)} (hown : ∀ f ∈ own, f.isLeftover = false)
    (last? new? : Option Leftover) :
    mergeAll (endedBy own last?) (new?.toList.map .leftover) =
      (.ok (), endedBy own (Leftover.joined? last? new?)) := by
  cases new? with
  | none => rfl
  | some new => exact mergeAll_cons_eq_ok_iff.2 ⟨_, mergeOne_leftover hown last? new, rfl⟩

/-- Records come in, and left-over bytes behind them. -/
theorem mergeAll_endedBy {own news : List (Field κ)} {last? new? : Option Leftover}
    (hown : ∀ f ∈ own, f.Writable) (hdistinct : (own.map Field.id).Nodup)
    (hnews : ∀ f ∈ news, f.Writable ∧ (f.data .central).length ≤ 65535) {merged : FieldList κ}
    (h : mergeAll (endedBy own last?) (endedBy news new?) = (.ok (), merged)) :
    ∃ kept added, merged = endedBy (kept ++ added) (Leftover.joined? last? new?) ∧
      RunsTo news own kept added := by
  obtain ⟨between, hbetween, h⟩ := mergeAll_append_eq_ok_iff.1 h
  obtain ⟨kept, added, rfl, hrun⟩ := mergeAll_records hown hdistinct hnews hbetween
  rw [mergeAll_leftover? fun f hf => (hrun.writable f hf).isLeftover_eq] at h
  exact ⟨kept, added, (congrArg Prod.snd h).symm, hrun⟩

end FieldList

/-! ### Streams -/

open RawRecord (stream)

namespace RawRecord

/-- The payloads for an id, in the order of the records. -/
def payloads (id : UInt16) (records : List RawRecord) : List Bytes :=
  (records.filter (RawRecord.id · = id)).map payload

/-- The local payload of a record after the records `news` came in from a central header: what each
payload for its id, in turn, makes of it. -/
def payloadAfter (reg : Registry κ) (news : List RawRecord) (r : RawRecord) : Bytes :=
  (payloads r.id news).foldl (reg.create r.id).localAfter r.payload

/-- The record is no blob that is empty in the local header and not in the first record for its id
that comes in. Such a blob counts as one of which no local payload was read, and takes the payload
that comes in for both headers. -/
def HoldsOwn (reg : Registry κ) (news : List RawRecord) (r : RawRecord) : Prop :=
  reg.IsBlob r.id → r.payload = [] → ∀ p ∈ (payloads r.id news).head?, p = []

end RawRecord

theorem Leftover.localData_joined? (last? : Option Leftover) (more : Bytes) :
    (joined? last? (leftover? .central more)).elim [] (Record.data .localHeader) =
      last?.elim [] (Record.data .localHeader) := by
  cases more with
  | nil => rfl
  | cons b more => cases last? <;> rfl

variable [Record κ]

namespace Registry

/-- The local payload of a record that nothing was read into is short. -/
theorem length_localData_create_le (id : UInt16) :
    (((builtin : Registry κ).create id).data .localHeader).length ≤ 65535 := by
  simp only [create, builtin]
  split
  case h_3 =>
    -- an owner and a group of number 1000
    have huser := (Ownership.wellFormed_ofIds 1000 1000).1
    have hgroup := (Ownership.wellFormed_ofIds 1000 1000).2
    show ((Ownership.ofIds 1000 1000).localData).length ≤ 65535
    simp only [Ownership.localData, Ownership.sized, List.length_cons, List.length_append]
    omega
  all_goals exact Nat.le_of_ble_eq_true rfl

omit [Record κ] in
/-- Only blobs are kept as bytes. -/
theorem isBlob_of_blob? {id : UInt16}
    (h : ((builtin : Registry κ).create id).blob?.isSome = true) :
    (builtin : Registry κ).IsBlob id := by
  cases htemplate : (builtin : Registry κ).template? id with
  | none => exact .inl htemplate
  | some template =>
    rw [create, htemplate, Option.getD_some] at h
    simp only [builtin] at htemplate
    split at htemplate
    case h_8 | h_9 | h_10 | h_11 | h_12 => exact .inr rfl
    case h_13 => cases htemplate
    all_goals
      obtain rfl := Option.some.inj htemplate
      cases h

end Registry

namespace Field

private theorem Writable.of_readsTo_create {place : Place} {id : UInt16} {payload : Bytes}
    {g : Field κ} (hpayload : payload.length ≤ 65535)
    (h : ReadsTo payload place ((Registry.builtin : Registry κ).create id) g) : g.Writable where
  isOwn := h.isOwn
  isLeftover_eq := h.isLeftover_eq.trans (Registry.receives_builtin id).isLeftover_eq
  length_le := by
    cases place with
    | localHeader =>
      rw [h.data_eq]
      exact (length_kept_le _ _ _).trans hpayload
    | central => exact h.length_localData_le hpayload (Registry.length_localData_create_le id)

theorem writable_of_forall₂ {place : Place} {records : List RawRecord} {fields : List (Field κ)}
    (h : List.Forall₂ (fun r g => ((Registry.builtin : Registry κ).create r.id).ReadsTo r.payload
      place g) records fields) :
    ∀ g ∈ fields, g.Writable ∧ (g.data place).length ≤ 65535 := by
  intro g hg
  obtain ⟨r, -, hread⟩ := exists_of_mem_forall₂ h hg
  refine ⟨.of_readsTo_create r.length_le hread, ?_⟩
  rw [hread.data_eq]
  exact (length_kept_le _ _ _).trans r.length_le

/-- Records that can be written are written as records of their ids and payloads. -/
theorem exists_stream {place : Place} {fields : List (Field κ)}
    (h : ∀ f ∈ fields, f.isLeftover = false ∧ (f.data place).length ≤ 65535) :
    ∃ records : List RawRecord,
      List.Forall₂ (fun f r => r.id = f.id ∧ r.payload = f.data place) fields records ∧
      merge place fields = .ok (stream records) := by
  induction fields with
  | nil => exact ⟨[], .nil, rfl⟩
  | cons f fields ih =>
    obtain ⟨⟨hrecord, hlength⟩, hfields⟩ := List.forall_mem_cons.1 h
    obtain ⟨records, hrecords, hmerge⟩ := ih hfields
    let r : RawRecord := ⟨f.id, f.data place, hlength⟩
    have hr : f.toStream place = .ok r.bytes :=
      (toStream_eq_ok_iff hrecord).2 ⟨hlength, rfl⟩
    refine ⟨r :: records, .cons ⟨rfl, rfl⟩ hrecords, ?_⟩
    exact merge_cons_eq_ok_iff.2 ⟨r.bytes, stream records, hr, hmerge, rfl⟩

theorem exists_stream_of_writable {fields : List (Field κ)} (h : ∀ f ∈ fields, f.Writable) :
    ∃ records : List RawRecord,
      List.Forall₂ (fun f r => r.id = f.id ∧ r.payload = f.data .localHeader) fields records ∧
      merge .localHeader fields = .ok (stream records) :=
  exists_stream fun f hf => ⟨(h f hf).isLeftover_eq, (h f hf).length_le⟩

/-- The payloads that come in for an id are those of the stream, as far as they are kept. -/
theorem centralPayloads_of_forall₂ {records : List RawRecord} {news : List (Field κ)}
    (h : List.Forall₂ (fun r g => ((Registry.builtin : Registry κ).create r.id).ReadsTo r.payload
      .central g) records news) (id : UInt16) :
    centralPayloads id news = (RawRecord.payloads id records).map
      (((Registry.builtin : Registry κ).create id).kept .central) := by
  induction h with
  | nil => rfl
  | @cons r g records news hread _ ih =>
    have hid : g.id = r.id := hread.id_eq.trans (Registry.receives_builtin r.id).id_eq
    rw [centralPayloads, RawRecord.payloads] at ih ⊢
    rw [List.filter_cons, List.filter_cons, hid]
    by_cases h : r.id = id
    · rw [if_pos (decide_eq_true h), if_pos (decide_eq_true h), List.map_cons, List.map_cons,
        List.map_cons, ih, hread.data_eq, h]
    · rw [if_neg (by simpa using h), if_neg (by simpa using h), ih]

private theorem localData_of_blob? {f : Field κ} {o : Opaque} (h : f.blob? = some o) :
    f.data .localHeader = o.localCopy := by
  cases f with
  | certificate o' | unrecognized o' =>
    obtain rfl := Option.some.inj h
    rfl
  | _ => cases h

/-- The local payload of a record that was read from a local header, after it took in the payloads
for its id. -/
theorem localData_of_readsAll {r : RawRecord} {news : List RawRecord} {f g : Field κ}
    {fields : List (Field κ)}
    (hf : ((Registry.builtin : Registry κ).create r.id).ReadsTo r.payload .localHeader f)
    (hfields : List.Forall₂ (fun r g => ((Registry.builtin : Registry κ).create r.id).ReadsTo
      r.payload .central g) news fields)
    (hg : ReadsAll (centralPayloads f.id fields) f g)
    (hown : (r.settled .localHeader).HoldsOwn (Registry.builtin : Registry κ) news) :
    g.data .localHeader =
      (r.settled .localHeader).payloadAfter (Registry.builtin : Registry κ) news := by
  have hid : f.id = r.id := hf.id_eq.trans (Registry.receives_builtin r.id).id_eq
  have hlocal : f.data .localHeader = (r.settled .localHeader).payload :=
    hf.data_eq.trans (congrArg RawRecord.payload
      (congrFun (RawRecord.rewritten_builtin (κ := κ) .localHeader) r))
  rw [RawRecord.HoldsOwn, RawRecord.id_settled] at hown
  rw [hid, centralPayloads_of_forall₂ hfields] at hg
  rw [RawRecord.payloadAfter, RawRecord.id_settled, hg.localData_eq, hlocal, hf.localAfter_eq,
    List.foldl_map]
  · simp only [localAfter_kept]
  · intro o ho _ hempty p hp
    rw [List.head?_map] at hp
    obtain ⟨q, hq, rfl⟩ := Option.mem_map.1 hp
    have hkind : f.blob?.isSome = true := Option.isSome_of_eq_some ho
    rw [hf.isSome_blob?_eq] at hkind
    rw [← localData_of_blob? ho, hlocal] at hempty
    obtain rfl := hown (Registry.isBlob_of_blob? hkind) hempty q hq
    exact List.length_eq_zero_iff.1 (Nat.le_zero.1 (length_kept_le _ _ _))

end Field

theorem FieldList.mergeCentral_eq_ok_iff {fields merged : FieldList κ} {reg : Registry κ}
    {bs : Bytes} :
    fields.mergeCentral reg bs = (.ok (), merged) ↔
      ∃ parsed, reg.parse .central .keep bs = .ok parsed ∧
        fields.mergeAll parsed = (.ok (), merged) := by
  rw [mergeCentral]
  split
  case h_1 parsed hparse => simp [hparse]
  case h_2 e hparse => simp [hparse]

end ZipArchive.Extra

namespace ZipArchive.Entry

open Extra (Field FieldList Leftover RawRecord Record Registry endedBy leftover?)
open Extra.RawRecord (stream)

variable {κ : Type} [Record κ]

theorem setLocalExtra_eq_ok_iff {e e' : Entry κ} {reg : Registry κ} {bs : Bytes} :
    e.setLocalExtra reg bs = (.ok (), e') ↔
      ∃ fields, reg.parse .localHeader .keep bs = .ok fields ∧ e' = { e with extra := fields } := by
  rw [setLocalExtra, Extra.ofExcept_eq_ok_iff, bind_eq_ok_iff]
  constructor
  · rintro ⟨fields, hfields, h⟩
    exact ⟨fields, hfields, (Except.ok.inj h).symm⟩
  · rintro ⟨fields, hfields, rfl⟩
    exact ⟨fields, hfields, rfl⟩

theorem mergeCentralExtra_eq_ok_iff {e e' : Entry κ} {reg : Registry κ} {bs : Bytes} :
    e.mergeCentralExtra reg bs = (.ok (), e') ↔
      ∃ fields, e.extra.mergeCentral reg bs = (.ok (), fields) ∧
        e' = { e with extra := fields } := by
  rw [mergeCentralExtra, Extra.mapState_eq_ok_iff]
  exact exists_congr fun fields => and_congr_right fun _ => eq_comm

/-- The local header after the records of a central header came in. Its records have the ids that
they had, in the same order; each has its local payload as the payloads for its id leave it, which
is unchanged but for values that are held once for both headers. Nothing is said of the payload of a
blob that is empty in the local header and not in the first record for its id of the central one,
`RawRecord.HoldsOwn`. Behind these records stands one for each id that only the central header has,
and then the bytes that stood there before. -/
theorem extraData_of_mergeCentralExtra {e e₁ e₂ : Entry κ} {records news : List RawRecord}
    {tail more : Bytes} (htail : ¬Extra.StartsWithRecord tail)
    (hmore : ¬Extra.StartsWithRecord more) (hdistinct : (records.map RawRecord.id).Nodup)
    (hset : e.setLocalExtra .builtin (stream records ++ tail) = (.ok (), e₁))
    (hmerge : e₁.mergeCentralExtra .builtin (stream news ++ more) = (.ok (), e₂)) :
    e₁.extraData .localHeader =
        .ok (stream (records.map (RawRecord.settled .localHeader)) ++ tail) ∧
      ∃ kept added : List RawRecord,
        e₂.extraData .localHeader = .ok (stream (kept ++ added) ++ tail) ∧
        List.Forall₂ (fun r r' => r'.id = r.id ∧
            (r.HoldsOwn (Registry.builtin : Registry κ) news →
              r'.payload = r.payloadAfter (Registry.builtin : Registry κ) news))
          (records.map (RawRecord.settled .localHeader)) kept ∧
        (added.map RawRecord.id).Nodup ∧
        ∀ id, id ∈ added.map RawRecord.id ↔
          id ∈ news.map RawRecord.id ∧ id ∉ records.map RawRecord.id := by
  obtain ⟨fields, hfields, rfl⟩ := setLocalExtra_eq_ok_iff.1 hset
  constructor
  · rw [← RawRecord.rewritten_builtin (κ := κ)]
    exact Registry.merge_of_parse Registry.receives_builtin htail hfields
  have hreg : ∀ id, ((Registry.builtin : Registry κ).create id).Receives id :=
    Registry.receives_builtin
  obtain ⟨merged, hmerged, rfl⟩ := mergeCentralExtra_eq_ok_iff.1 hmerge
  obtain ⟨parsed, hparsed, hall⟩ := FieldList.mergeCentral_eq_ok_iff.1 hmerged
  obtain ⟨own, rfl, hown⟩ := Registry.forall₂_of_parse (fun id => (hreg id).isOwn) htail hfields
  obtain ⟨fresh, rfl, hfresh⟩ := Registry.forall₂_of_parse (fun id => (hreg id).isOwn) hmore hparsed
  have hownIds : own.map Field.id = records.map RawRecord.id :=
    map_eq_of_forall₂ (hown.imp fun r g hread => hread.id_eq.trans (hreg r.id).id_eq)
  have hfreshIds : fresh.map Field.id = news.map RawRecord.id :=
    map_eq_of_forall₂ (hfresh.imp fun r g hread => hread.id_eq.trans (hreg r.id).id_eq)
  obtain ⟨kept, added, rfl, hrun⟩ := FieldList.mergeAll_endedBy
    (fun f hf => (Field.writable_of_forall₂ hown f hf).1) (hownIds ▸ hdistinct)
    (Field.writable_of_forall₂ hfresh) hall
  have hwritable := List.forall_mem_append.1 hrun.writable
  obtain ⟨keptRecords, hkept, hkeptStream⟩ := Field.exists_stream_of_writable hwritable.1
  obtain ⟨addedRecords, haddedRecords, haddedStream⟩ := Field.exists_stream_of_writable hwritable.2
  have hids : addedRecords.map RawRecord.id = added.map Field.id :=
    map_eq_of_forall₂ (haddedRecords.imp fun f r hr => hr.1)
  refine ⟨keptRecords, addedRecords, ?_, ?_, ?_, ?_⟩
  · have hstream : Extra.merge .localHeader (kept ++ added) =
        .ok (stream (keptRecords ++ addedRecords)) :=
      Extra.merge_append_eq_ok_iff.2 ⟨_, _, hkeptStream, haddedStream, List.flatMap_append⟩
    show Extra.merge .localHeader (endedBy (kept ++ added) _) = _
    rw [Extra.merge_endedBy hstream, Leftover.localData_joined?, Extra.data_leftover?]
  · have htaken : List.Forall₂ (fun r g => g.id = r.id ∧
        ((RawRecord.settled .localHeader r).HoldsOwn (Registry.builtin : Registry κ) news →
          g.data .localHeader = (RawRecord.settled .localHeader r).payloadAfter
            (Registry.builtin : Registry κ) news)) records kept :=
      forall₂_comp (fun r f g hf hg => ⟨hg.id_eq.trans (hf.id_eq.trans (hreg r.id).id_eq),
        Field.localData_of_readsAll hf hfresh hg⟩) hown hrun.reads
    refine List.forall₂_map_left_iff.2 (forall₂_comp (fun r g r' hg hr' => ?_) htaken hkept)
    refine ⟨?_, fun hholds => hr'.2.trans (hg.2 hholds)⟩
    exact (hr'.1.trans hg.1).trans (RawRecord.id_settled .localHeader r).symm
  · have hnodup := hrun.nodup
    rw [List.map_append] at hnodup
    rw [hids]
    exact (List.nodup_append.1 hnodup).2.1
  · rw [hids, ← hfreshIds, ← hownIds]
    exact hrun.mem_added_iff

/-- A timestamp, a request for alignment and a record with an unknown id. -/
def sampleRecords : List RawRecord :=
  [{ id := 0x5455, payload := [3, 1, 0, 0, 0, 2, 0, 0, 0], length_le := by decide },
    { id := 0xA11E, payload := [4, 0, 0, 0], length_le := by decide },
    { id := 0x9999, payload := [7], length_le := by decide }]

/-- Other payloads for the same ids, one more record, and one more payload for its id. -/
def sampleNews : List RawRecord :=
  [{ id := 0x9999, payload := [8, 8], length_le := by decide },
    { id := 0x4242, payload := [5], length_le := by decide },
    { id := 0x5455, payload := [0x81, 9, 0, 0, 0], length_le := by decide },
    { id := 0xA11E, payload := [8, 0], length_le := by decide },
    { id := 0x4242, payload := [6], length_le := by decide }]

/-- An entry with the given extra fields. -/
def sampleEntry (extra : FieldList Empty) : Entry Empty :=
  { name := "a", extra }

/-- What the records are read as. -/
def sampleOwn : FieldList Empty :=
  [.timestamp { readFlags := 3, centralFlags := 3, modify? := some 1, access? := some 2 },
    .alignment { alignment := 4, padding := 2, alignment_le := by decide },
    .unrecognized { id := 0x9999, localCopy := [7] },
    .leftover { localCopy := [1, 2, 3] }]

/-- The list after the other records came in. -/
def sampleMerged : FieldList Empty :=
  [.timestamp { readFlags := 3, centralFlags := 0x81, modify? := some 9, access? := some 2 },
    .alignment { alignment := 8, padding := 2, alignment_le := by decide },
    .unrecognized { id := 0x9999, localCopy := [7], centralCopy? := some [8, 8] },
    .unrecognized { id := 0x4242, localCopy := [5], centralCopy? := some [6] },
    .leftover { localCopy := [1, 2, 3], centralCopy? := some [9] }]

/-- The time of modification and the number for alignment are taken over. The time of access, the
flags, the padding, the unknown record and the bytes behind the records stay as they are. -/
theorem extraData_of_mergeCentralExtra_sampleNews :
    ∃ e₁ e₂ : Entry Empty,
      (sampleEntry []).setLocalExtra .builtin (stream sampleRecords ++ [1, 2, 3]) = (.ok (), e₁) ∧
      e₁.mergeCentralExtra .builtin (stream sampleNews ++ [9]) = (.ok (), e₂) ∧
      (∃ kept added, e₂.extraData .localHeader = .ok (stream (kept ++ added) ++ [1, 2, 3]) ∧
        kept.map RawRecord.id = sampleRecords.map RawRecord.id ∧
        ∀ id, id ∈ added.map RawRecord.id ↔
          id ∈ sampleNews.map RawRecord.id ∧ id ∉ sampleRecords.map RawRecord.id) ∧
      e₂.extraData .localHeader =
        .ok [0x55, 0x54, 9, 0, 3, 9, 0, 0, 0, 2, 0, 0, 0, 0x1E, 0xA1, 4, 0, 8, 0, 0, 0,
          0x99, 0x99, 1, 0, 7, 0x42, 0x42, 1, 0, 5, 1, 2, 3] := by
  have hparse : (Registry.builtin : Registry Empty).parse .localHeader .keep
      (stream sampleRecords ++ [1, 2, 3]) = .ok sampleOwn := by decide +kernel
  have hset : (sampleEntry []).setLocalExtra .builtin (stream sampleRecords ++ [1, 2, 3]) =
      (.ok (), sampleEntry sampleOwn) :=
    setLocalExtra_eq_ok_iff.2 ⟨sampleOwn, hparse, rfl⟩
  have hmerged : sampleOwn.mergeCentral .builtin (stream sampleNews ++ [9]) =
      (.ok (), sampleMerged) := by decide +kernel
  have hmerge : (sampleEntry sampleOwn).mergeCentralExtra .builtin (stream sampleNews ++ [9]) =
      (.ok (), sampleEntry sampleMerged) :=
    mergeCentralExtra_eq_ok_iff.2 ⟨sampleMerged, hmerged, rfl⟩
  have htail : ¬Extra.StartsWithRecord [1, 2, 3] := by
    rintro ⟨_, _, _, _, _, h, -⟩
    cases h
  have hmore : ¬Extra.StartsWithRecord [9] := by
    rintro ⟨_, _, _, _, _, h, -⟩
    cases h
  obtain ⟨-, kept, added, hstream, hkept, -, hadded⟩ :=
    extraData_of_mergeCentralExtra htail hmore (by decide) hset hmerge
  refine ⟨_, _, hset, hmerge, ⟨kept, added, hstream, ?_, hadded⟩, by decide +kernel⟩
  exact (map_eq_of_forall₂ (hkept.imp fun _ _ h => h.1)).trans (by decide)

/-- The record of a path, with a text of one letter. -/
def samplePath (letter : UInt8) : RawRecord where
  id := Extra.UnicodeText.pathId
  payload := [1, 0, 0, 0, 0, letter]
  length_le := by simp

/-- A record of a path has one text for both headers: another one in the central header becomes that
of the local header. -/
theorem extraData_samplePath_changes :
    ∃ e₁ e₂ : Entry Empty,
      (sampleEntry []).setLocalExtra .builtin (stream [samplePath 0x61]) = (.ok (), e₁) ∧
      e₁.mergeCentralExtra .builtin (stream [samplePath 0x62]) = (.ok (), e₂) ∧
      e₁.extraData .localHeader = .ok (stream [samplePath 0x61]) ∧
      e₂.extraData .localHeader = .ok (stream [samplePath 0x62]) ∧
      (samplePath 0x62).payload ≠ (samplePath 0x61).payload := by
  have hparse : (Registry.builtin : Registry Empty).parse .localHeader .keep
      (stream [samplePath 0x61]) = .ok [.unicodePath { text := [0x61] }] := by decide +kernel
  have hmerged : FieldList.mergeCentral ([.unicodePath { text := [0x61] }] : FieldList Empty)
      .builtin (stream [samplePath 0x62]) = (.ok (), [.unicodePath { text := [0x62] }]) := by
    decide +kernel
  refine ⟨sampleEntry [.unicodePath { text := [0x61] }],
    sampleEntry [.unicodePath { text := [0x62] }], ?_, ?_, ?_, ?_, by decide⟩
  · exact setLocalExtra_eq_ok_iff.2 ⟨_, hparse, rfl⟩
  · exact mergeCentralExtra_eq_ok_iff.2 ⟨_, hmerged, rfl⟩
  · decide +kernel
  · decide +kernel

end ZipArchive.Entry
