import Mathlib.Data.List.Nodup
import ZipArchive.Proofs.Extra.MergeCentral

/-!
# The extra fields of an entry are an ordered map

A list of extra fields is an ordered map if it consists of records of which no two have the same id,
and of left-over bytes behind them if there are any: `FieldList.IsOrderedMap`. Every operation on
the extra fields of an entry keeps it so, also one that fails half-way, if the ids of each local
header that comes in are different. Therefore every entry that such operations lead to from one
without extra fields has an ordered map, `Entry.Reached`. There adding and removing records do what
they do in a map, and keep the order of the others: `Entry.Reached.isOrderedMap`. Whatever headers
come in, left-over bytes stay last: `Entry.leftoverLast_of_reached`.

A record of a caller's own may come to any payloads by reading, but it has one id for good,
`FixedId`. Without that, records could come to the same id when a central header comes in.
-/

namespace ZipArchive.Extra

/-! ### Ids that do not change -/

/-- Types of records that keep their id when a central payload is read, also if it is refused. -/
class FixedId (ρ : Type) [Record ρ] : Prop where
  id_parseCentral (r : ρ) (buf : Array UInt8) (offset length : Nat) :
    Record.id (Record.parseCentral r buf offset length).2 = Record.id r

instance : FixedId Empty where
  id_parseCentral r := r.elim

instance : FixedId Opaque where
  id_parseCentral o buf offset length := by
    show (inSpan o buf offset length _).2.id = o.id
    rw [inSpan]
    split
    case h_1 payload _ => exact Field.ReadsTo.id_withCentral o payload
    case h_2 => rfl

variable {κ : Type}

namespace FieldList

/-! ### Records and left-over bytes -/

/-- The fields of a list that are records. -/
def records (fields : FieldList κ) : FieldList κ :=
  fields.filter fun f => !f.isLeftover

/-- The fields of a list that are no records. -/
def leftovers (fields : FieldList κ) : FieldList κ :=
  fields.filter fun f => f.isLeftover

section EndedBy

variable {own : List (Field κ)} (last? : Option Leftover)

theorem records_endedBy (hown : ∀ f ∈ own, f.isLeftover = false) :
    records (endedBy own last?) = own := by
  have hrecords : own.filter (fun f => !f.isLeftover) = own :=
    List.filter_eq_self.2 fun f hf => by rw [hown f hf, Bool.not_false]
  rw [records, endedBy, List.filter_append, hrecords]
  cases last? with
  | none => exact List.append_nil own
  | some l => exact List.append_nil own

theorem leftovers_endedBy (hown : ∀ f ∈ own, f.isLeftover = false) :
    leftovers (endedBy own last?) = last?.toList.map .leftover := by
  have hnone : own.filter (fun f => f.isLeftover) = [] :=
    List.filter_eq_nil_iff.2 fun f hf => by simp [hown f hf]
  rw [leftovers, endedBy, List.filter_append, hnone, List.nil_append]
  cases last? with
  | none => rfl
  | some l => rfl

end EndedBy

end FieldList

variable [Record κ]

/-- Reading a payload makes no record left-over bytes, and no left-over bytes a record. -/
theorem Field.isLeftover_parse (place : Place) (f : Field κ) (buf : Array UInt8)
    (offset length : Nat) : (f.parse place buf offset length).2.isLeftover = f.isLeftover := by
  cases f with
  | _ => rfl

/-- Reading a central payload does not change the id of a field. -/
theorem Field.id_parse [FixedId κ] (f : Field κ) (buf : Array UInt8) (offset length : Nat) :
    (f.parse .central buf offset length).2.id = f.id := by
  induction f with
  | certificate o => exact FixedId.id_parseCentral o buf offset length
  | unrecognized o => exact FixedId.id_parseCentral o buf offset length
  | custom r => exact FixedId.id_parseCentral r buf offset length
  | boxed f ih => exact ih
  | _ => rfl

namespace FieldList

/-- The ids of the records of a list, in their order. -/
def ids (fields : FieldList κ) : List UInt16 :=
  fields.records.map Field.id

/-- The records of a list have ids of their own, and left-over bytes come once at most, behind
them. -/
structure IsOrderedMap (fields : FieldList κ) : Prop where
  eq_append : fields = fields.records ++ fields.leftovers
  length_leftovers_le : fields.leftovers.length ≤ 1
  nodup_ids : fields.ids.Nodup

section EndedBy

variable {own : List (Field κ)} (last? : Option Leftover)

theorem ids_endedBy (hown : ∀ f ∈ own, f.isLeftover = false) :
    ids (endedBy own last?) = own.map Field.id := by
  rw [ids, records_endedBy last? hown]

private theorem IsOrderedMap.endedBy (hown : ∀ f ∈ own, f.isLeftover = false)
    (hdistinct : (own.map Field.id).Nodup) : IsOrderedMap (endedBy own last?) where
  eq_append := by
    rw [records_endedBy last? hown, leftovers_endedBy last? hown]
    rfl
  length_leftovers_le := by
    rw [leftovers_endedBy last? hown]
    cases last? with
    | none => exact Nat.zero_le 1
    | some l => exact Nat.le_refl 1
  nodup_ids := by rwa [ids_endedBy last? hown]

end EndedBy

theorem IsOrderedMap.nil : IsOrderedMap ([] : FieldList κ) where
  eq_append := rfl
  length_leftovers_le := Nat.zero_le 1
  nodup_ids := List.nodup_nil

/-- An ordered map is a list of records with left-over bytes behind them, if there are any. -/
theorem IsOrderedMap.exists_endedBy {fields : FieldList κ} (h : fields.IsOrderedMap) :
    ∃ own last?, fields = Extra.endedBy own last? ∧ (∀ f ∈ own, f.isLeftover = false) ∧
      (own.map Field.id).Nodup := by
  have hown : ∀ f ∈ fields.records, f.isLeftover = false := by
    intro f hf
    simpa using (List.mem_filter.1 hf).2
  have hlast : ∃ last? : Option Leftover, fields.leftovers = last?.toList.map .leftover := by
    have hlength := h.length_leftovers_le
    rcases hfields : fields.leftovers with _ | ⟨f, _ | ⟨g, rest⟩⟩
    · exact ⟨none, rfl⟩
    · have hf : f ∈ fields.leftovers := hfields ▸ List.mem_cons_self ..
      have hleftover := (List.mem_filter.1 hf).2
      cases f with
      | leftover l => exact ⟨some l, rfl⟩
      | _ => cases hleftover
    · rw [hfields] at hlength
      exact absurd hlength (by simp)
  obtain ⟨last?, hlast⟩ := hlast
  refine ⟨fields.records, last?, ?_, hown, h.nodup_ids⟩
  rw [Extra.endedBy, ← hlast]
  exact h.eq_append

/-- In an ordered map, records with the same id are the same. -/
theorem IsOrderedMap.eq_of_id_eq {fields : FieldList κ} (h : fields.IsOrderedMap) {f g : Field κ}
    (hf : f ∈ fields) (hg : g ∈ fields) (hfrecord : f.isLeftover = false)
    (hgrecord : g.isLeftover = false) (hid : f.id = g.id) : f = g := by
  have hmem : ∀ {k : Field κ}, k ∈ fields → k.isLeftover = false → k ∈ fields.records :=
    fun hk hrecord => List.mem_filter.2 ⟨hk, by rw [hrecord, Bool.not_false]⟩
  exact List.inj_on_of_nodup_map h.nodup_ids (hmem hf hfrecord) (hmem hg hgrecord) hid

/-! ### One record in the place of another -/

section Replaced

variable {before after : List (Field κ)} {old new : Field κ}

private theorem map_id_replaced (hid : new.id = old.id) :
    (before ++ new :: after).map Field.id = (before ++ old :: after).map Field.id := by
  rw [List.map_append, List.map_append, List.map_cons, List.map_cons, hid]

omit [Record κ] in
private theorem isLeftover_replaced (hown : ∀ f ∈ before ++ old :: after, f.isLeftover = false)
    (hnew : new.isLeftover = false) : ∀ f ∈ before ++ new :: after, f.isLeftover = false := by
  obtain ⟨hbefore, hafter⟩ := List.forall_mem_append.1 hown
  have hbehind := (List.forall_mem_cons.1 hafter).2
  exact List.forall_mem_append.2 ⟨hbefore, List.forall_mem_cons.2 ⟨hnew, hbehind⟩⟩

end Replaced

/-! ### Adding -/

/-- Adding a record makes it the one that is found by its id. -/
theorem find?_add_self (fields : FieldList κ) {new : Field κ} (hnew : new.isLeftover = false) :
    (fields.add new).find? new.id = some new := by
  obtain ⟨before, after, hbefore, -, hadd⟩ := fields.exists_add_eq new.id
  have hnone : List.find? (Field.hasId new.id) before = none :=
    List.find?_eq_none.2 fun f hf => by simp [hbefore f hf]
  have hself : new.hasId new.id = true := by simp [Field.hasId, hnew]
  rw [hadd new hnew rfl, find?, List.find?_append, hnone, Option.none_or,
    List.find?_cons_of_pos hself]

/-- Adding a record changes nothing about what is found by other ids. -/
theorem find?_add_of_ne (fields : FieldList κ) {new : Field κ} (hnew : new.isLeftover = false)
    {id : UInt16} (hid : id ≠ new.id) : (fields.add new).find? id = fields.find? id := by
  have hskip : ∀ (before after : FieldList κ) {f : Field κ}, f.id = new.id →
      List.find? (Field.hasId id) (before ++ f :: after) =
        List.find? (Field.hasId id) (before ++ after) := by
    intro before after f hf
    have hnot : ¬f.hasId id = true := by simp [Field.hasId, hf, Ne.symm hid]
    rw [List.find?_append, List.find?_append, List.find?_cons_of_neg hnot]
  rcases fields.add_cases hnew with
    ⟨before, old, after, rfl, hold, hadd⟩ | ⟨before, after, rfl, -, -, hadd⟩
  · have holdId : old.id = new.id := by
      simpa [Field.hasId] using (Bool.and_eq_true_iff.1 hold).2
    rw [hadd, find?, find?, hskip before after rfl, hskip before after holdId]
  · rw [hadd, find?, find?, hskip before after rfl]

omit [Record κ] in
/-- Left-over bytes are passed over where a record is replaced. -/
theorem replaceFirst?_endedBy {p : Field κ → Bool} (hp : ∀ l, p (.leftover l) = false)
    (new : Field κ) (own : List (Field κ)) (last? : Option Leftover) :
    replaceFirst? p new (Extra.endedBy own last?) =
      (replaceFirst? p new own).map (Extra.endedBy · last?) := by
  induction own with
  | nil =>
    cases last? with
    | none => rfl
    | some l => simp [Extra.endedBy, replaceFirst?, hp]
  | cons f own ih =>
    rw [endedBy_cons, replaceFirst?, replaceFirst?, ih]
    split
    case isTrue => rfl
    case isFalse =>
      rw [Option.map_map, Option.map_map]
      rfl

/-- A record takes the place of the one with its id, or goes behind all others. -/
theorem exists_add_endedBy {own : List (Field κ)} (hown : ∀ f ∈ own, f.isLeftover = false)
    (last? : Option Leftover) {new : Field κ} (hnew : new.isLeftover = false) :
    ∃ own', add (Extra.endedBy own last?) new = Extra.endedBy own' last? ∧
      (∀ f ∈ own', f.isLeftover = false) ∧
      own'.map Field.id =
        if new.id ∈ own.map Field.id then own.map Field.id else own.map Field.id ++ [new.id] := by
  have hreplace := replaceFirst?_endedBy (p := Field.hasId new.id) (fun l => rfl) new own last?
  rcases replaceFirst?_cases (Field.hasId new.id) own with
    ⟨before, old, after, rfl, hold, -, hreplaced⟩ | ⟨hnone, -⟩
  · have hid : new.id = old.id := (beq_iff_eq.1 (Bool.and_eq_true_iff.1 hold).2).symm
    have hmem : new.id ∈ (before ++ old :: after).map Field.id :=
      hid ▸ List.mem_map_of_mem (List.mem_append_right before (List.mem_cons_self ..))
    refine ⟨before ++ new :: after, ?_, isLeftover_replaced hown hnew, ?_⟩
    · rw [add, hnew, if_neg Bool.false_ne_true, hreplace, hreplaced]
      rfl
    · rw [if_pos hmem, map_id_replaced hid]
  · have hid : new.id ∉ own.map Field.id := by
      intro hmem
      obtain ⟨f, hf, hfid⟩ := List.mem_map.1 hmem
      have hnot := hnone f hf
      simp [Field.hasId, hown f hf, hfid] at hnot
    refine ⟨own ++ [new], add_endedBy hnew hown hid last?, ?_, ?_⟩
    · exact List.forall_mem_append.2 ⟨hown, List.forall_mem_singleton.2 hnew⟩
    · rw [if_neg hid, List.map_append, List.map_singleton]

/-- Left-over bytes take the place of others, behind the records. -/
theorem add_leftover (fields : FieldList κ) (l : Leftover) :
    fields.add (.leftover l) = fields.records ++ [.leftover l] :=
  if_pos rfl

/-- Adding a field keeps a list an ordered map. -/
theorem IsOrderedMap.add {fields : FieldList κ} (h : fields.IsOrderedMap) (new : Field κ) :
    (fields.add new).IsOrderedMap := by
  obtain ⟨own, last?, rfl, hown, hdistinct⟩ := h.exists_endedBy
  cases hnew : new.isLeftover with
  | true =>
    cases new with
    | leftover l =>
      rw [add_leftover, records_endedBy last? hown]
      exact .endedBy (some l) hown hdistinct
    | _ => cases hnew
  | false =>
    obtain ⟨own', hadd, hown', hids⟩ := exists_add_endedBy hown last? hnew
    rw [hadd]
    refine .endedBy last? hown' ?_
    rw [hids]
    split
    case isTrue => exact hdistinct
    case isFalse hid =>
      have hapart : ∀ id ∈ own.map Field.id, ∀ id' ∈ [new.id], id ≠ id' := by
        intro id hmem id' hmem' h
        exact hid (List.mem_singleton.1 hmem' ▸ h ▸ hmem)
      exact List.nodup_append.2 ⟨hdistinct, List.pairwise_singleton _ _, hapart⟩

/-! ### Removing -/

/-- Taking a record out answers what is found by its id, and leaves what removing it leaves. -/
theorem takeOut_eq (id : UInt16) (fields : FieldList κ) :
    takeOut id fields = (fields.find? id, fields.remove id) := by
  induction fields with
  | nil => rfl
  | cons f fs ih =>
    cases hf : f.hasId id with
    | true => simp [takeOut, find?, remove, hf]
    | false =>
      rw [find?, remove] at ih
      simp [takeOut, find?, remove, hf, ih]

/-- Of elements of which at most one satisfies `p`, that one is erased. -/
theorem eraseP_eq_filter {α : Type} {p : α → Bool} {xs : List α}
    (h : xs.Pairwise fun a b => p a = true → p b = false) :
    xs.eraseP p = xs.filter fun a => !p a := by
  induction xs with
  | nil => rfl
  | cons a xs ih =>
    obtain ⟨hhead, htail⟩ := List.pairwise_cons.1 h
    cases ha : p a with
    | true =>
      have hrest : xs.filter (fun b => !p b) = xs :=
        List.filter_eq_self.2 fun b hb => by rw [hhead b hb ha, Bool.not_false]
      rw [List.eraseP_cons_of_pos ha, List.filter_cons_of_neg (by simp [ha]), hrest]
    | false =>
      rw [List.eraseP_cons_of_neg (by simp [ha]), List.filter_cons_of_pos (by simp [ha]), ih htail]

/-- In an ordered map the one record with an id is removed. -/
theorem IsOrderedMap.remove_eq {fields : FieldList κ} (h : fields.IsOrderedMap) (id : UInt16) :
    fields.remove id = fields.filter fun f => !f.hasId id := by
  obtain ⟨own, last?, rfl, hown, hdistinct⟩ := h.exists_endedBy
  refine eraseP_eq_filter (List.pairwise_append.2 ⟨?_, ?_, ?_⟩)
  · refine (List.pairwise_map.1 hdistinct).imp fun {f g} hne hf => ?_
    have hid : f.id = id := by simpa [Field.hasId] using (Bool.and_eq_true_iff.1 hf).2
    have hg : g.id ≠ id := fun hg => hne (hid.trans hg.symm)
    simp [Field.hasId, hg]
  · refine List.pairwise_map.2 (List.pairwise_of_forall fun _ _ => ?_)
    exact fun _ => rfl
  · intro f _ g hg _
    obtain ⟨l, -, rfl⟩ := List.mem_map.1 hg
    rfl

/-- What is found by an id is not there any more when it is left out. -/
theorem find?_filter (fields : FieldList κ) (id : UInt16) :
    find? (fields.filter fun f => !f.hasId id) id = none :=
  List.find?_eq_none.2 fun f hf => by simpa using (List.mem_filter.1 hf).2

/-- Leaving out fields keeps a list an ordered map. -/
theorem IsOrderedMap.filter {fields : FieldList κ} (h : fields.IsOrderedMap) (p : Field κ → Bool) :
    IsOrderedMap (fields.filter p) := by
  obtain ⟨own, last?, rfl, hown, hdistinct⟩ := h.exists_endedBy
  have hfilter : (Extra.endedBy own last?).filter p =
      Extra.endedBy (own.filter p) (last?.filter fun l => p (.leftover l)) := by
    rw [Extra.endedBy, List.filter_append]
    cases last? with
    | none => rfl
    | some l => cases hl : p (.leftover l) <;> simp [Extra.endedBy, Option.filter, hl]
  rw [hfilter]
  refine .endedBy _ (fun f hf => hown f (List.mem_filter.1 hf).1) ?_
  exact List.Nodup.sublist (List.filter_sublist.map Field.id) hdistinct

/-! ### Records of a header -/

/-- Whatever becomes of a field that comes in, the list stays an ordered map. -/
theorem IsOrderedMap.mergeOne [FixedId κ] {fields : FieldList κ} (h : fields.IsOrderedMap)
    (new : Field κ) : (fields.mergeOne new).2.IsOrderedMap := by
  have hadd := h.add new
  obtain ⟨own, last?, rfl, hown, hdistinct⟩ := h.exists_endedBy
  cases hnew : new.isLeftover with
  | true =>
    cases new with
    | leftover l =>
      rw [mergeOne_leftover hown]
      exact .endedBy (some _) hown hdistinct
    | _ => cases hnew
  | false =>
    rw [mergeOne_endedBy hnew]
    rcases updateFirst_cases (Field.hasId new.id) own with
      ⟨before, old, after, rfl, -, hop⟩ | ⟨-, hop⟩
    · -- the record with the id is read into, and stays what it was in id and kind, fault or not
      have hkind := old.isLeftover_parse .central (new.data .central).toArray 0
        (new.data .central).length
      have hid := old.id_parse (new.data .central).toArray 0 (new.data .central).length
      have hold := hown old (List.mem_append_right before (List.mem_cons_self ..))
      rw [hop]
      refine .endedBy last? (isLeftover_replaced hown (hkind.trans hold)) ?_
      exact (map_id_replaced hid).symm ▸ hdistinct
    · rw [hop]
      exact hadd

/-- What every field that comes in preserves, a header preserves, whatever becomes of it. -/
theorem mergeCentral_induction {P : FieldList κ → Prop}
    (hstep : ∀ fields new, P fields → P (mergeOne fields new).2) {fields : FieldList κ}
    (h : P fields) (reg : Registry κ) (stream : Bytes) : P (fields.mergeCentral reg stream).2 := by
  have hall : ∀ (news fields : FieldList κ), P fields → P (fields.mergeAll news).2 := by
    intro news
    induction news with
    | nil => exact fun _ h => h
    | cons new news ih =>
      intro fields h
      have hnew := hstep fields new h
      rw [mergeAll]
      split
      case h_1 merged hmerged =>
        rw [hmerged] at hnew
        exact ih merged hnew
      case h_2 => exact hnew
  rw [mergeCentral]
  split
  case h_1 parsed _ => exact hall parsed fields h
  case h_2 => exact h

/-! ### Left-over bytes stay last -/

omit [Record κ] in
private theorem LeftoverLast.replaced {before after : List (Field κ)} {old new : Field κ}
    (h : LeftoverLast (before ++ old :: after)) (hkind : new.isLeftover = old.isLeftover) :
    LeftoverLast (before ++ new :: after) := by
  obtain ⟨hbefore, hafter, -⟩ := List.pairwise_append.1 h
  obtain ⟨hhead, htail⟩ := List.pairwise_cons.1 hafter
  refine List.pairwise_append.2 ⟨hbefore, List.pairwise_cons.2 ⟨?_, htail⟩, ?_⟩
  · intro f hf
    exact hkind.trans (hhead f hf)
  · exact fun f hf _ _ => h.of_append f hf

omit [Record κ] in
private theorem LeftoverLast.endedBy {own : List (Field κ)} (hown : ∀ f ∈ own, f.isLeftover = false)
    (last? : Option Leftover) : LeftoverLast (Extra.endedBy own last?) := by
  refine List.pairwise_append.2 ⟨?_, ?_, fun f hf _ _ => hown f hf⟩
  · exact List.Pairwise.imp_of_mem (fun hf _ _ => hown _ hf)
      (List.pairwise_of_forall fun _ _ => trivial)
  · cases last? with
    | none => exact .nil
    | some l => exact List.pairwise_singleton ..

private theorem LeftoverLast.add_any {fields : FieldList κ} (h : fields.LeftoverLast)
    (new : Field κ) : (fields.add new).LeftoverLast := by
  cases hnew : new.isLeftover with
  | false => exact h.add hnew
  | true =>
    cases new with
    | leftover l =>
      have hrecords : ∀ f ∈ fields.records, f.isLeftover = false := fun f hf => by
        simpa using (List.mem_filter.1 hf).2
      rw [add_leftover]
      exact LeftoverLast.endedBy hrecords (some l)
    | _ => cases hnew

private theorem LeftoverLast.mergeOne {fields : FieldList κ} (h : fields.LeftoverLast)
    (new : Field κ) : (fields.mergeOne new).2.LeftoverLast := by
  rw [FieldList.mergeOne]
  rcases updateFirst_cases (if new.isLeftover then Field.isLeftover else Field.hasId new.id)
    fields with ⟨before, old, after, rfl, -, hop⟩ | ⟨-, hop⟩
  · rw [hop]
    exact h.replaced (old.isLeftover_parse .central _ 0 _)
  · rw [hop]
    exact h.add_any new

/-! ### Streams of records -/

/-- A stream is read as records with its ids and left-over bytes behind them. -/
theorem exists_of_parse {place : Place} {remainder : Remainder} {stream : Bytes}
    {fields : FieldList κ}
    (h : (Registry.builtin : Registry κ).parse place remainder stream = .ok fields) :
    ∃ own tail, fields = Extra.endedBy own (leftover? place tail) ∧ ¬StartsWithRecord tail ∧
      (∀ f ∈ own, f.isLeftover = false) ∧ own.map Field.id = recordIds stream := by
  obtain ⟨records, tail, rfl, htail⟩ := RawRecord.exists_records stream
  obtain ⟨own, rfl, hown⟩ :=
    Registry.forall₂_of_parse (fun id => (Registry.receives_builtin id).isOwn) htail h
  have hids : own.map Field.id = records.map RawRecord.id :=
    RawRecord.map_id_eq_of_forall₂ Registry.receives_builtin hown
  have hrecords : ∀ f ∈ own, f.isLeftover = false := fun f hf =>
    (Field.writable_of_forall₂ hown f hf).1.isLeftover_eq
  exact ⟨own, tail, rfl, htail, hrecords, hids.trans (recordIds_stream records htail).symm⟩

private theorem LeftoverLast.of_parse {place : Place} {remainder : Remainder} {stream : Bytes}
    {fields : FieldList κ}
    (h : (Registry.builtin : Registry κ).parse place remainder stream = .ok fields) :
    fields.LeftoverLast := by
  obtain ⟨own, tail, rfl, -, hown, -⟩ := exists_of_parse h
  exact .endedBy hown (leftover? place tail)

/-- A stream with ids that are all different is read as an ordered map. -/
theorem IsOrderedMap.of_parse {place : Place} {remainder : Remainder} {stream : Bytes}
    {fields : FieldList κ} (hdistinct : (recordIds stream).Nodup)
    (h : (Registry.builtin : Registry κ).parse place remainder stream = .ok fields) :
    fields.IsOrderedMap := by
  obtain ⟨own, tail, rfl, -, hown, hids⟩ := exists_of_parse h
  exact .endedBy (leftover? place tail) hown (hids ▸ hdistinct)

/-! ### What an operation does -/

/-- A record came into a list: it is found by its id, everything else is found as before, and the
records stand in the order in which they were, a new id behind the others, before left-over
bytes. -/
structure Adds (new : Field κ) (fields added : FieldList κ) : Prop where
  find?_self : added.find? new.id = some new
  find?_of_ne : ∀ id ≠ new.id, added.find? id = fields.find? id
  ids_eq : added.ids = if new.id ∈ fields.ids then fields.ids else fields.ids ++ [new.id]
  split_eq : added = added.records ++ fields.leftovers

private theorem IsOrderedMap.adds {fields : FieldList κ} (h : fields.IsOrderedMap) {new : Field κ}
    (hnew : new.isLeftover = false) : Adds new fields (fields.add new) := by
  have hself := find?_add_self fields hnew
  have hothers : ∀ id ≠ new.id, (fields.add new).find? id = fields.find? id :=
    fun _ hid => find?_add_of_ne fields hnew hid
  obtain ⟨own, last?, rfl, hown, -⟩ := h.exists_endedBy
  obtain ⟨own', hadd, hown', hids⟩ := exists_add_endedBy hown last? hnew
  refine ⟨hself, hothers, ?_, ?_⟩
  · rw [hadd, ids_endedBy last? hown', ids_endedBy last? hown, hids]
  · rw [hadd, records_endedBy last? hown', leftovers_endedBy last? hown]
    rfl

/-- A record was taken out of a list: the answer is what was found by the id, nothing is found by it
any more, and all other fields are what they were, in their order. -/
structure TakesOut (id : UInt16) (fields : FieldList κ) (found? : Option (Field κ))
    (rest : FieldList κ) : Prop where
  found?_eq : found? = fields.find? id
  find?_eq : rest.find? id = none
  rest_eq : rest = fields.filter fun f => !f.hasId id

private theorem IsOrderedMap.takesOut {fields : FieldList κ} (h : fields.IsOrderedMap)
    (id : UInt16) : TakesOut id fields (fields.takeOut id).1 (fields.takeOut id).2 where
  found?_eq := congrArg Prod.fst (takeOut_eq id fields)
  find?_eq := by
    rw [takeOut_eq, h.remove_eq]
    exact find?_filter fields id
  rest_eq := by rw [takeOut_eq, h.remove_eq]

end FieldList

end ZipArchive.Extra

namespace ZipArchive.Entry

open Extra (FieldList FixedId Opaque Record Registry recordIds)

variable {κ : Type} [Record κ]

/-! ### Entries -/

/-- The entry comes from one without extra fields by operations on these, whether they succeeded or
not. The streams of local headers are those with a property. -/
inductive Reached (property : Bytes → Prop) : Entry κ → Prop
  /-- There are no extra fields yet. -/
  | empty {e : Entry κ} (h : e.extra = []) : Reached property e
  /-- A field was added. -/
  | add {e : Entry κ} (h : Reached property e) (f : Extra.Field κ) :
      Reached property (e.addExtra f)
  /-- A record was taken out, if there was one. -/
  | takeOut {e : Entry κ} (h : Reached property e) (id : UInt16) :
      Reached property (e.takeOutExtra id).2
  /-- The fields were replaced by those of a local header, if these could be read. -/
  | setLocal {e : Entry κ} (h : Reached property e) {stream : Bytes} (hstream : property stream) :
      Reached property (e.setLocalExtra .builtin stream).2
  /-- The fields of a central header came in, as far as they could be read. -/
  | mergeCentral {e : Entry κ} (h : Reached property e) (stream : Bytes) :
      Reached property (e.mergeCentralExtra .builtin stream).2

/-- The ids of a stream are all different. -/
def DistinctIds (stream : Bytes) : Prop :=
  (recordIds stream).Nodup

/-- Operations keep left-over bytes last. -/
theorem leftoverLast_of_reached {property : Bytes → Prop} {e : Entry κ} (h : e.Reached property) :
    e.extra.LeftoverLast := by
  induction h with
  | empty h =>
    rw [h]
    exact .nil
  | add _ f ih => exact ih.add_any f
  | @takeOut e _ id ih =>
    show FieldList.LeftoverLast (e.extra.takeOut id).2
    rw [FieldList.takeOut_eq]
    exact ih.remove id
  | @setLocal e _ stream _ ih =>
    rw [setLocalExtra]
    cases hparse : (Registry.builtin : Registry κ).parse .localHeader .keep stream with
    | error fault => exact ih
    | ok fields => exact .of_parse hparse
  | mergeCentral _ stream ih =>
    exact FieldList.mergeCentral_induction (fun _ new h => h.mergeOne new) ih .builtin stream

/-- Operations keep the extra fields an ordered map if the ids of a local header are different. -/
theorem isOrderedMap_of_reached [FixedId κ] {e : Entry κ} (h : e.Reached DistinctIds) :
    e.extra.IsOrderedMap := by
  induction h with
  | empty h =>
    rw [h]
    exact .nil
  | add _ f ih => exact ih.add f
  | takeOut _ id ih =>
    show FieldList.IsOrderedMap (FieldList.takeOut id _).2
    rw [(ih.takesOut id).rest_eq]
    exact ih.filter _
  | @setLocal e _ stream hstream ih =>
    rw [setLocalExtra]
    cases hparse : (Registry.builtin : Registry κ).parse .localHeader .keep stream with
    | error fault => exact ih
    | ok fields => exact .of_parse hstream hparse
  | mergeCentral _ stream ih =>
    exact FieldList.mergeCentral_induction (fun _ new h => h.mergeOne new) ih .builtin stream

/-- In every entry that operations lead to, the extra fields are records that have ids of their own,
with left-over bytes behind them at most once. There, adding a record is to set it in a map that
keeps its order, taking a record out is to erase it there, and adding left-over bytes replaces those
that there were and nothing else. -/
theorem Reached.isOrderedMap [FixedId κ] {e : Entry κ} (h : e.Reached DistinctIds) :
    e.extra.IsOrderedMap ∧
      (∀ f : Extra.Field κ, f.isLeftover = false →
        FieldList.Adds f e.extra (e.addExtra f).extra) ∧
      (∀ id, FieldList.TakesOut id e.extra (e.takeOutExtra id).1 (e.takeOutExtra id).2.extra) ∧
      ∀ l, (e.addExtra (.leftover l)).extra = e.extra.records ++ [.leftover l] := by
  have hmap := isOrderedMap_of_reached h
  exact ⟨hmap, fun f hf => hmap.adds hf, hmap.takesOut, e.extra.add_leftover⟩

/-- The records of a local header and a byte behind them, then a record of a caller's own, a central
header with one more id, and one that cannot be read. -/
def sampleOperations : Entry Opaque :=
  let read := ((Entry.file "a").setLocalExtra .builtin [0x34, 0x12, 1, 0, 7, 9]).2
  let added := read.addExtra (.custom { id := 0x7777, localCopy := [1] })
  let merged := (added.mergeCentralExtra .builtin [0x66, 0x66, 0, 0, 0x77, 0x77, 1, 0, 5]).2
  (merged.mergeCentralExtra .builtin [0x99, 0x99, 0, 0, 0x55, 0x54, 0, 0]).2

/-- Three records stand before the byte, and a fourth goes behind them. -/
theorem Reached.isOrderedMap_sampleOperations :
    sampleOperations.Reached DistinctIds ∧
      sampleOperations.extra =
        [.unrecognized { id := 0x1234, localCopy := [7] },
          .custom { id := 0x7777, localCopy := [1], centralCopy? := some [5] },
          .unrecognized { id := 0x6666, centralCopy? := some [] },
          .leftover { localCopy := [9] }] ∧
      (sampleOperations.addExtra (.jarMarker {})).extra.ids = [0x1234, 0x7777, 0x6666, 0xCAFE] ∧
      (sampleOperations.takeOutExtra 0x7777).1 =
        some (.custom { id := 0x7777, localCopy := [1], centralCopy? := some [5] }) := by
  have hdistinct : (recordIds [0x34, 0x12, 1, 0, 7, 9]).Nodup := by decide +kernel
  have hempty : (Entry.file "a" : Entry Opaque).Reached DistinctIds := .empty rfl
  have hreached : sampleOperations.Reached DistinctIds :=
    (((hempty.setLocal hdistinct).add _).mergeCentral _).mergeCentral _
  have hextra : sampleOperations.extra =
      [.unrecognized { id := 0x1234, localCopy := [7] },
        .custom { id := 0x7777, localCopy := [1], centralCopy? := some [5] },
        .unrecognized { id := 0x6666, centralCopy? := some [] },
        .leftover { localCopy := [9] }] := by decide +kernel
  obtain ⟨-, hadds, htakes, -⟩ := hreached.isOrderedMap
  have hids := (hadds (.jarMarker {}) rfl).ids_eq
  have hfound := (htakes 0x7777).found?_eq
  rw [hextra] at hids hfound
  exact ⟨hreached, hextra, hids, hfound⟩

end ZipArchive.Entry
