import Mathlib.Data.List.Nodup
import ZipArchive.Proofs.Extra.MergeCentral

/-!
# The central header read is the central header written

In most central headers every id stands once. The records of such a header come into those of a
local header without fault, whatever these hold: a payload that a fresh record reads is read by any
record of its kind. Each record of the list reads the one payload for its id, if there is one,
`Field.TakesFrom`, and the records with a new id are added as they are and in their order,
`FieldList.exists_mergeAll`. So the central header is written with the payloads that were read from
it, and with those of the local records for ids that it has not:
`Entry.extraData_central_of_mergeCentralExtra`.
-/

namespace ZipArchive.Extra

variable {κ : Type} [Record κ]

/-! ### One record for each id -/

namespace Field

/-- The second field is what the first becomes when the records `news` come in, of which no two have
the same id. -/
inductive TakesFrom (news : List (Field κ)) : Field κ → Field κ → Prop
  /-- No record has the id of the field. -/
  | same {f : Field κ} (h : f.id ∉ news.map id) : TakesFrom news f f
  /-- The payload of the record with the id of the field was read. -/
  | read {f g new : Field κ} (hnew : new ∈ news) (hid : f.id = new.id)
      (h : ReadsTo (new.data .central) .central f g) : TakesFrom news f g

/-- The payload of the second field can be read into the first, if that has its id. -/
def Accepts (f new : Field κ) : Prop :=
  f.id = new.id → ∃ g, f.read .central (new.data .central) = (.ok (), g)

variable {f g k new : Field κ} {news : List (Field κ)}

private theorem TakesFrom.id_eq (h : TakesFrom news f g) : g.id = f.id := by
  cases h with
  | same => rfl
  | read _ _ h => exact h.id_eq

private theorem TakesFrom.isLeftover_eq (h : TakesFrom news f g) : g.isLeftover = f.isLeftover := by
  cases h with
  | same => rfl
  | read _ _ h => exact h.isLeftover_eq

/-- One record comes in, and the others after it. -/
theorem TakesFrom.cons (hid : new.id ∉ news.map id)
    (h : TakesIn new.id (new.data .central) f g) (h' : TakesFrom news g k) :
    TakesFrom (new :: news) f k := by
  cases h' with
  | same hg =>
    rw [TakesIn] at h
    split at h
    case isTrue hf => exact .read (List.mem_cons_self ..) hf h
    case isFalse hf =>
      obtain rfl : g = f := h
      exact .same (List.not_mem_cons_of_ne_of_not_mem hf hg)
  | read hmem hg hread =>
    have hf : f.id ≠ new.id := fun hf =>
      hid (List.mem_map.2 ⟨_, hmem, hg.symm.trans (h.id_eq.trans hf)⟩)
    obtain rfl : g = f := by rwa [TakesIn, if_neg hf] at h
    exact .read (List.mem_cons_of_mem _ hmem) hg hread

end Field

namespace FieldList

open ZipArchive.Extra.Field (TakesIn TakesFrom)

variable {new : Field κ} {own news between added kept : List (Field κ)} {last? : Option Leftover}

/-- A record that is accepted comes in without fault. -/
theorem exists_mergeOne (hnew : new.isLeftover = false) (haccepts : ∀ f ∈ own, f.Accepts new) :
    ∃ merged, mergeOne (endedBy own last?) new = (.ok (), merged) := by
  rw [mergeOne_endedBy hnew]
  rcases updateFirst_cases (Field.hasId new.id) own with
    ⟨before, old, after, rfl, hold, hop⟩ | ⟨-, hop⟩
  · have hid : old.id = new.id := by
      simpa [Field.hasId] using (Bool.and_eq_true_iff.1 hold).2
    obtain ⟨g, hread⟩ := haccepts old (List.mem_append_right _ (List.mem_cons_self ..)) hid
    rw [hop, hread]
    exact ⟨_, rfl⟩
  · rw [hop]
    exact ⟨_, rfl⟩

namespace StepsTo

/-- What is accepted stays so when a record with another id comes in. -/
theorem accepts (h : StepsTo new own between added) (hid : new.id ∉ news.map Field.id)
    (haccepts : ∀ f ∈ own, ∀ n ∈ news, f.Accepts n) :
    ∀ f ∈ between ++ added, ∀ n ∈ news, f.Accepts n := by
  have hother : ∀ f : Field κ, f.id = new.id → ∀ n ∈ news, f.Accepts n := fun f hf n hn hfn =>
    absurd (List.mem_map.2 ⟨n, hn, hfn.symm.trans hf⟩) hid
  intro g hg
  rcases List.mem_append.1 hg with hg | hg
  · obtain ⟨f, hf, htakes⟩ := exists_of_mem_forall₂ h.takes hg
    by_cases hfid : f.id = new.id
    · exact hother g (htakes.id_eq.trans hfid)
    · obtain rfl : g = f := by rwa [TakesIn, if_neg hfid] at htakes
      exact haccepts g hf
  · rcases h.added_eq with ⟨-, rfl⟩ | ⟨-, rfl⟩
    · cases hg
    · exact hother g (congrArg Field.id (List.mem_singleton.1 hg))

/-- The record that came in is among the first of those with a new id, or was read. -/
theorem filter_eq (h : StepsTo new own between added) (hid : new.id ∉ news.map Field.id) :
    (new :: news).filter (fun n => n.id ∉ own.map Field.id) =
      added ++ news.filter (fun n => n.id ∉ (between ++ added).map Field.id) := by
  rw [List.filter_cons, List.map_append, h.map_id_eq]
  rcases h.added_eq with ⟨hmem, rfl⟩ | ⟨hmem, rfl⟩
  · simp [hmem]
  · have hnews : ∀ n ∈ news, n.id ≠ new.id := fun n hn h => hid (List.mem_map.2 ⟨n, hn, h⟩)
    rw [if_pos (decide_eq_true hmem), List.singleton_append]
    refine congrArg (new :: ·) (List.filter_congr fun n hn => ?_)
    simp [hnews n hn]

/-- What the later records leave of a step: a record that was added stays as it is. -/
theorem exists_takesFrom (h : StepsTo new own between added) (hid : new.id ∉ news.map Field.id)
    (hrest : List.Forall₂ (TakesFrom news) (between ++ added) kept) :
    ∃ kept', kept = kept' ++ added ∧ List.Forall₂ (TakesFrom (new :: news)) own kept' := by
  obtain ⟨kept', added', rfl, hkept, hadded⟩ := exists_of_forall₂_append hrest
  refine ⟨kept', congrArg (kept' ++ ·) ?_,
    forall₂_comp (fun f g k hfg hgk => .cons hid hfg hgk) h.takes hkept⟩
  rcases h.added_eq with ⟨-, rfl⟩ | ⟨-, rfl⟩
  · exact List.forall₂_nil_left_iff.1 hadded
  · obtain ⟨g, _, hg, hnil, rfl⟩ := List.forall₂_cons_left_iff.1 hadded
    obtain rfl := List.forall₂_nil_left_iff.1 hnil
    cases hg with
    | same => rfl
    | read hmem hnew _ => exact absurd (List.mem_map.2 ⟨_, hmem, hnew.symm⟩) hid

end StepsTo

/-- Records of which no two have the same id come in without fault if each of them is accepted. -/
theorem exists_mergeAll (hown : ∀ f ∈ own, f.Writable) (hdistinct : (own.map Field.id).Nodup)
    (hnews : ∀ f ∈ news, f.Writable ∧ (f.data .central).length ≤ 65535)
    (hnodup : (news.map Field.id).Nodup) (haccepts : ∀ f ∈ own, ∀ n ∈ news, f.Accepts n) :
    ∃ kept, mergeAll (endedBy own last?) news =
        (.ok (), endedBy (kept ++ news.filter fun n => n.id ∉ own.map Field.id) last?) ∧
      List.Forall₂ (TakesFrom news) own kept := by
  -- by induction on what comes in: a record that is added is one of the own records from then on
  induction news generalizing own with
  | nil =>
    refine ⟨own, ?_, List.forall₂_same.2 fun f _ => .same List.not_mem_nil⟩
    rw [List.filter_nil, List.append_nil]
    rfl
  | cons new news ih =>
    obtain ⟨⟨hnew, hpayload⟩, hnews⟩ := List.forall_mem_cons.1 hnews
    obtain ⟨hid, hnodup⟩ := List.nodup_cons.1 hnodup
    obtain ⟨_, hmerged⟩ := exists_mergeOne hnew.isLeftover_eq
      fun f hf => haccepts f hf new (List.mem_cons_self ..)
    obtain ⟨between, added, rfl, hstep⟩ :=
      mergeOne_record hown hdistinct hnew.isLeftover_eq hmerged
    obtain ⟨kept, hall, hkept⟩ := ih (hstep.writable hown hnew hpayload) (hstep.nodup hdistinct)
      hnews hnodup (hstep.accepts hid fun f hf n hn => haccepts f hf n (List.mem_cons_of_mem _ hn))
    obtain ⟨kept, rfl, htakes⟩ := hstep.exists_takesFrom hid hkept
    refine ⟨kept, mergeAll_cons_eq_ok_iff.2 ⟨_, hmerged, ?_⟩, htakes⟩
    rw [hstep.filter_eq hid, ← List.append_assoc]
    exact hall

/-- Left-over bytes come in behind the records. -/
theorem exists_mergeAll_endedBy (last? new? : Option Leftover) (hown : ∀ f ∈ own, f.Writable)
    (hdistinct : (own.map Field.id).Nodup)
    (hnews : ∀ f ∈ news, f.Writable ∧ (f.data .central).length ≤ 65535)
    (hnodup : (news.map Field.id).Nodup) (haccepts : ∀ f ∈ own, ∀ n ∈ news, f.Accepts n) :
    ∃ kept, mergeAll (endedBy own last?) (endedBy news new?) =
        (.ok (), endedBy (kept ++ news.filter fun n => n.id ∉ own.map Field.id)
          (Leftover.joined? last? new?)) ∧
      List.Forall₂ (TakesFrom news) own kept ∧ ∀ f ∈ kept, f.isLeftover = false := by
  obtain ⟨kept, hall, htakes⟩ := exists_mergeAll hown hdistinct hnews hnodup haccepts
  have hkept : ∀ g ∈ kept, g.isLeftover = false := by
    intro g hg
    obtain ⟨f, hf, hfg⟩ := exists_of_mem_forall₂ htakes hg
    exact hfg.isLeftover_eq.trans (hown f hf).isLeftover_eq
  refine ⟨kept, mergeAll_append_eq_ok_iff.2 ⟨_, hall, ?_⟩, htakes, hkept⟩
  exact mergeAll_leftover? (List.forall_mem_append.2
    ⟨hkept, fun f hf => (hnews f (List.mem_filter.1 hf).1).1.isLeftover_eq⟩) last? new?

end FieldList

/-! ### Streams -/

/-- The left-over bytes of the central header, or else those of the local header. -/
theorem Leftover.centralData_joined? (tail more : Bytes) :
    (joined? (leftover? .localHeader tail) (leftover? .central more)).elim []
      (Record.data .central) = if more = [] then tail else more := by
  cases more with
  | nil => cases tail <;> rfl
  | cons b more => cases tail <;> rfl

theorem Leftover.joined?_eq_none_iff (tail more : Bytes) :
    joined? (leftover? .localHeader tail) (leftover? .central more) = none ↔
      tail = [] ∧ more = [] := by
  cases more with
  | nil => cases tail <;> simp [joined?, leftover?]
  | cons b more => simp [joined?, leftover?]

/-- The central payload of a record that nothing was read into is short. -/
theorem Registry.length_centralData_create_le (id : UInt16) :
    (((builtin : Registry κ).create id).data .central).length ≤ 65535 := by
  simp only [create, builtin]
  split
  all_goals exact Nat.le_of_ble_eq_true rfl

namespace Field

variable {r : RawRecord} {f g : Field κ}

/-- The records of a local header accept those of a central header. -/
theorem accepts_of_forall₂ {records news : List RawRecord} {own fresh : List (Field κ)}
    (hown : List.Forall₂ (fun r f => ((Registry.builtin : Registry κ).create r.id).ReadsTo r.payload
      .localHeader f) records own)
    (hfresh : List.Forall₂ (fun n g => ((Registry.builtin : Registry κ).create n.id).ReadsTo
      n.payload .central g) news fresh) :
    ∀ f ∈ own, ∀ g ∈ fresh, f.Accepts g := by
  intro f hf g hg hid
  obtain ⟨r, -, hr⟩ := exists_of_mem_forall₂ hown hf
  obtain ⟨n, -, hn⟩ := exists_of_mem_forall₂ hfresh hg
  rw [RawRecord.id_eq_of_readsTo (Registry.receives_builtin r.id) hr,
    RawRecord.id_eq_of_readsTo (Registry.receives_builtin n.id) hn] at hid
  rw [hid] at hr
  exact hr.exists_read hn

/-- The central payload of a record of a local header, after the records of a central header came
in: the one that was read from there, or else the one that it had. -/
theorem centralData_of_takesFrom {news : List RawRecord} {fresh : List (Field κ)}
    (hf : ((Registry.builtin : Registry κ).create r.id).ReadsTo r.payload .localHeader f)
    (hfresh : List.Forall₂ (fun n g => ((Registry.builtin : Registry κ).create n.id).ReadsTo
      n.payload .central g) news fresh)
    (hnodup : (news.map RawRecord.id).Nodup) (h : TakesFrom fresh f g) :
    (∀ n ∈ news, n.id = r.id → g.data .central = (n.settled .central).payload) ∧
      (r.id ∉ news.map RawRecord.id → g = f) ∧ (g.data .central).length ≤ 65535 := by
  have hid : f.id = r.id := RawRecord.id_eq_of_readsTo (Registry.receives_builtin r.id) hf
  have hids := RawRecord.map_id_eq_of_forall₂ Registry.receives_builtin hfresh
  cases h with
  | same hnot =>
    rw [hids, hid] at hnot
    exact ⟨fun n hn hnr => absurd (List.mem_map.2 ⟨n, hn, hnr⟩) hnot, fun _ => rfl,
      hf.length_centralData_le r.length_le (Registry.length_centralData_create_le r.id)⟩
  | read hnew hfnew hread =>
    obtain ⟨m, hm, hmread⟩ := exists_of_mem_forall₂ hfresh hnew
    have hmr : m.id = r.id := by
      rw [← hid, hfnew, RawRecord.id_eq_of_readsTo (Registry.receives_builtin m.id) hmread]
    have hpayload : g.data .central = (m.settled .central).payload := by
      rw [hread.data_eq, hmread.data_eq, hf.kept_eq .central, ← hmr, kept_kept,
        ← RawRecord.rewritten_builtin (κ := κ)]
      rfl
    refine ⟨fun n hn hnr => ?_, fun hnot => absurd (List.mem_map.2 ⟨m, hm, hmr⟩) hnot, ?_⟩
    · rw [hpayload, List.inj_on_of_nodup_map hnodup hm hn (hmr.trans hnr.symm)]
    · rw [hpayload]
      exact (m.settled .central).length_le

end Field

omit [Record κ] in
/-- The records of a list that satisfy a condition. -/
theorem FieldList.filter_endedBy {own : List (Field κ)} (hown : ∀ f ∈ own, f.isLeftover = false)
    (last? : Option Leftover) (p : Field κ → Bool) :
    (endedBy own last?).filter (fun f => !f.isLeftover && p f) = own.filter p := by
  have hrecords : own.filter (fun f => !f.isLeftover && p f) = own.filter p :=
    List.filter_congr fun f hf => by rw [hown f hf, Bool.not_false, Bool.true_and]
  have hlast : (last?.toList.map (Field.leftover (κ := κ))).filter
      (fun f => !f.isLeftover && p f) = [] := by
    cases last? <;> rfl
  rw [endedBy, List.filter_append, hrecords, hlast, List.append_nil]

/-- Among records of which no two have the same id, each is the one that is found by its id. -/
theorem FieldList.find?_endedBy {own : List (Field κ)} {last? : Option Leftover}
    (hown : ∀ f ∈ own, f.isLeftover = false) (hdistinct : (own.map Field.id).Nodup) {f : Field κ}
    (hf : f ∈ own) : FieldList.find? (endedBy own last?) f.id = some f := by
  obtain ⟨before, after, rfl⟩ := List.append_of_mem hf
  have hbefore : ∀ g ∈ before, g.hasId f.id = false := by
    intro g hg
    have hne : g.id ≠ f.id := Field.id_ne_of_nodup hdistinct g (.inl hg)
    simp [Field.hasId, hne]
  have hself : f.hasId f.id = true := by simp [Field.hasId, hown f hf]
  rw [find?, endedBy, List.append_assoc, List.find?_append,
    List.find?_eq_none.2 fun g hg => by simp [hbefore g hg], Option.none_or, List.cons_append,
    List.find?_cons_of_pos hself]

/-! ### What is written -/

namespace RawRecord

/-- The second record is written in the central header for the first, of a local header that was
read as `fields`, after the records `news` came in. -/
structure WrittenFor (fields : FieldList κ) (news : List RawRecord) (r r' : RawRecord) : Prop where
  id_eq : r'.id = r.id
  /-- It has the payload that came in for its id. -/
  payload_of_mem : ∀ n ∈ news, n.id = r.id → r'.payload = (n.settled .central).payload
  /-- If none did, it has that of the field that was read from the local header. -/
  payload_of_not_mem : r.id ∉ news.map RawRecord.id →
    ∃ f, fields.find? r.id = some f ∧ r'.payload = f.data .central

/-- The records of a local header are written in the central header with what came in for them. -/
theorem exists_writtenFor {records news : List RawRecord} {own fresh kept : List (Field κ)}
    {last? : Option Leftover}
    (hown : List.Forall₂ (fun r f => ((Registry.builtin : Registry κ).create r.id).ReadsTo r.payload
      .localHeader f) records own)
    (hdistinct : (own.map Field.id).Nodup)
    (hfresh : List.Forall₂ (fun n g => ((Registry.builtin : Registry κ).create n.id).ReadsTo
      n.payload .central g) news fresh)
    (hnodup : (news.map RawRecord.id).Nodup)
    (htakes : List.Forall₂ (Field.TakesFrom fresh) own kept) :
    ∃ written, merge .central kept = .ok (stream written) ∧
      List.Forall₂ (WrittenFor (endedBy own last?) news) records written := by
  have hrecords : ∀ f ∈ own, f.isLeftover = false := fun f hf =>
    (Field.writable_of_forall₂ hown f hf).1.isLeftover_eq
  have hfind : ∀ f ∈ own, FieldList.find? (endedBy own last?) f.id = some f := fun f hf =>
    FieldList.find?_endedBy hrecords hdistinct hf
  have hpairs : List.Forall₂ (fun r g => ∃ f,
      ((Registry.builtin : Registry κ).create r.id).ReadsTo r.payload .localHeader f ∧
        FieldList.find? (endedBy own last?) f.id = some f ∧ Field.TakesFrom fresh f g)
      records kept :=
    forall₂_comp (fun _ f _ hf hg => ⟨f, hf, hg⟩) hown
      ((List.forall₂_and_left _ _).2 ⟨hfind, htakes⟩)
  have hkept : ∀ g ∈ kept, g.isLeftover = false ∧ (g.data .central).length ≤ 65535 := by
    intro g hg
    obtain ⟨r, -, f, hf, -, htake⟩ := exists_of_mem_forall₂ hpairs hg
    exact ⟨htake.isLeftover_eq.trans (hf.isLeftover_eq.trans
      (Registry.receives_builtin r.id).isLeftover_eq),
      (Field.centralData_of_takesFrom hf hfresh hnodup htake).2.2⟩
  obtain ⟨written, hwritten, hstream⟩ := Field.exists_stream hkept
  refine ⟨written, hstream, forall₂_comp (fun r g r' hg hr' => ?_) hpairs hwritten⟩
  obtain ⟨f, hf, hfound, htake⟩ := hg
  have hid := id_eq_of_readsTo (Registry.receives_builtin r.id) hf
  obtain ⟨hnew, hsame, -⟩ := Field.centralData_of_takesFrom hf hfresh hnodup htake
  exact ⟨hr'.1.trans (htake.id_eq.trans hid), fun n hn hnr => hr'.2.trans (hnew n hn hnr),
    fun hnot => ⟨f, hid ▸ hfound, hr'.2.trans (congrArg (Field.data .central) (hsame hnot))⟩⟩

/-- Records with other ids are written as they were read. -/
theorem merge_filter_of_forall₂ {news : List RawRecord} {fresh : List (Field κ)}
    (hfresh : List.Forall₂ (fun n g => ((Registry.builtin : Registry κ).create n.id).ReadsTo
      n.payload .central g) news fresh) (ids : List UInt16) :
    merge .central (fresh.filter fun g => g.id ∉ ids) =
      .ok (stream ((news.filter fun n => n.id ∉ ids).map (settled .central))) := by
  rw [← rewritten_builtin (κ := κ)]
  refine merge_of_forall₂ Registry.receives_builtin (List.rel_filter (fun n g hread => ?_) hfresh)
  simp [id_eq_of_readsTo (Registry.receives_builtin n.id) hread]

end RawRecord

end ZipArchive.Extra

namespace ZipArchive.Entry

open Extra (Field FieldList Leftover RawRecord Record Registry endedBy leftover?)
open Extra.RawRecord (stream)

variable {κ : Type} [Record κ]

/-- The central header read is the central header written. When the records of a local and of a
central header are read of which no two have the same id, the central ones come into the local ones
without fault. The list then has the local records in their order, those with an id that only the
central header has in their order, and left-over bytes if one of the headers has any. The central
header is written with the payload that it had for each id, and for the other ids with the one of
the record as it was read from the local header. -/
theorem extraData_central_of_mergeCentralExtra (e : Entry κ) {records news : List RawRecord}
    {tail more : Bytes} (htail : ¬Extra.StartsWithRecord tail)
    (hmore : ¬Extra.StartsWithRecord more) (hdistinct : (records.map RawRecord.id).Nodup)
    (hnodup : (news.map RawRecord.id).Nodup) {fields fresh : FieldList κ}
    (hlocal : (Registry.builtin : Registry κ).parse .localHeader .keep (stream records ++ tail) =
      .ok fields)
    (hcentral : (Registry.builtin : Registry κ).parse .central .keep (stream news ++ more) =
      .ok fresh) :
    ∃ e₁ e₂ own last? written,
      e.setLocalExtra .builtin (stream records ++ tail) = (.ok (), e₁) ∧
      e₁.mergeCentralExtra .builtin (stream news ++ more) = (.ok (), e₂) ∧
      e₂.extra = endedBy (own ++ fresh.filter fun f =>
        !f.isLeftover && f.id ∉ records.map RawRecord.id) last? ∧
      (∀ f ∈ own, f.isLeftover = false) ∧ own.map Field.id = records.map RawRecord.id ∧
      (last? = none ↔ tail = [] ∧ more = []) ∧
      e₂.extraData .central = .ok (stream (written ++
        (news.filter fun n => n.id ∉ records.map RawRecord.id).map (RawRecord.settled .central)) ++
          if more = [] then tail else more) ∧
      List.Forall₂ (RawRecord.WrittenFor fields news) records written := by
  have hreg : ∀ id, ((Registry.builtin : Registry κ).create id).Receives id :=
    Registry.receives_builtin
  obtain ⟨own, rfl, hown⟩ := Registry.forall₂_of_parse (fun id => (hreg id).isOwn) htail hlocal
  obtain ⟨fresh, rfl, hfresh⟩ :=
    Registry.forall₂_of_parse (fun id => (hreg id).isOwn) hmore hcentral
  have hids := RawRecord.map_id_eq_of_forall₂ hreg hown
  have hfreshIds := RawRecord.map_id_eq_of_forall₂ hreg hfresh
  have hnews := Field.writable_of_forall₂ hfresh
  -- the fields come in, and then both parts of the list are written
  obtain ⟨kept, hall, htakes, hkept⟩ := FieldList.exists_mergeAll_endedBy
    (leftover? .localHeader tail) (leftover? .central more)
    (fun f hf => (Field.writable_of_forall₂ hown f hf).1) (hids ▸ hdistinct) hnews
    (hfreshIds ▸ hnodup) (Field.accepts_of_forall₂ hown hfresh)
  obtain ⟨written, hstream, hwritten⟩ :=
    RawRecord.exists_writtenFor hown (hids ▸ hdistinct) hfresh hnodup htakes
  have hwhole : Extra.merge .central
      (kept ++ fresh.filter fun f => f.id ∉ records.map RawRecord.id) = .ok (stream (written ++
        (news.filter fun n => n.id ∉ records.map RawRecord.id).map (RawRecord.settled .central))) :=
    Extra.merge_append_eq_ok_iff.2 ⟨_, _, hstream,
      RawRecord.merge_filter_of_forall₂ hfresh (records.map RawRecord.id), List.flatMap_append⟩
  rw [hids] at hall
  refine ⟨_, _, kept, _, written, setLocalExtra_eq_ok_iff.2 ⟨_, hlocal, rfl⟩,
    mergeCentralExtra_eq_ok_iff.2 ⟨_, FieldList.mergeCentral_eq_ok_iff.2 ⟨_, hcentral, hall⟩, rfl⟩,
    ?_, hkept, ?_, Leftover.joined?_eq_none_iff tail more, ?_, hwritten⟩
  · rw [FieldList.filter_endedBy fun f hf => (hnews f hf).1.isLeftover_eq]
  · rw [map_eq_of_forall₂ (htakes.imp fun _ _ htake => htake.id_eq), hids]
  · show Extra.merge .central (endedBy (kept ++ _) _) = _
    rw [Extra.merge_endedBy hwhole, Leftover.centralData_joined?]

/-- Other payloads for two of the ids of the sample, in another order, and one more record. -/
def sampleDistinct : List RawRecord :=
  [{ id := 0x9999, payload := [6, 7], length_le := by decide },
    { id := 0x4242, payload := [4, 2], length_le := by decide },
    { id := 0xA11E, payload := [16, 0, 7], length_le := by decide }]

/-- What the records are read as. -/
def sampleFresh : FieldList Empty :=
  [.unrecognized { id := 0x9999, localCopy := [6, 7], centralCopy? := some [6, 7] },
    .unrecognized { id := 0x4242, localCopy := [4, 2], centralCopy? := some [4, 2] },
    .alignment { alignment := 16, alignment_le := by decide },
    .leftover { centralCopy? := some [9] }]

/-- The timestamp is written with the time that stood in the local header, and the request for
alignment is cut after its word. -/
theorem extraData_central_of_mergeCentralExtra_sampleDistinct :
    ∃ (e₁ e₂ : Entry Empty) (kept : List RawRecord),
      (sampleEntry []).setLocalExtra .builtin (stream sampleRecords ++ [1, 2, 3]) = (.ok (), e₁) ∧
      e₁.mergeCentralExtra .builtin (stream sampleDistinct ++ [9]) = (.ok (), e₂) ∧
      e₂.extraData .central =
        .ok (stream (kept ++ [⟨0x4242, [4, 2], by decide⟩]) ++ [9]) ∧
      kept.map RawRecord.id = [0x5455, 0xA11E, 0x9999] ∧
      kept.map RawRecord.payload = [[3, 1, 0, 0, 0], [16, 0], [6, 7]] := by
  have hlocal : (Registry.builtin : Registry Empty).parse .localHeader .keep
      (stream sampleRecords ++ [1, 2, 3]) = .ok sampleOwn := by decide +kernel
  have hcentral : (Registry.builtin : Registry Empty).parse .central .keep
      (stream sampleDistinct ++ [9]) = .ok sampleFresh := by decide +kernel
  have htail : ¬Extra.StartsWithRecord [1, 2, 3] :=
    Extra.not_startsWithRecord_of_length_lt (by decide)
  have hmore : ¬Extra.StartsWithRecord [9] := Extra.not_startsWithRecord_of_length_lt (by decide)
  obtain ⟨e₁, e₂, _, _, kept, hset, hmerge, -, -, -, -, hstream, hkept⟩ :=
    extraData_central_of_mergeCentralExtra (sampleEntry []) htail hmore (by decide) (by decide)
      hlocal hcentral
  refine ⟨e₁, e₂, kept, hset, hmerge, hstream, ?_, ?_⟩
  · exact (map_eq_of_forall₂ (hkept.imp fun _ _ h => h.id_eq)).trans (by decide)
  · obtain ⟨time, _, ⟨-, -, htime⟩, hothers, rfl⟩ := List.forall₂_cons_left_iff.1 hkept
    obtain ⟨request, _, ⟨-, hrequest, -⟩, hlast, rfl⟩ := List.forall₂_cons_left_iff.1 hothers
    obtain ⟨unknown, _, ⟨-, hunknown, -⟩, hnil, rfl⟩ := List.forall₂_cons_left_iff.1 hlast
    obtain rfl := List.forall₂_nil_left_iff.1 hnil
    obtain ⟨f, hf, htime⟩ := htime (by decide)
    obtain rfl := Option.some.inj hf
    rw [List.map_cons, List.map_cons, List.map_cons, List.map_nil, htime,
      hrequest _ (.tail _ (.tail _ (.head _))) rfl, hunknown _ (.head _) rfl]
    rfl

end ZipArchive.Entry
