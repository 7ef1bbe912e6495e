import ZipArchive.Extra.FieldList
import ZipArchive.Proofs.Extra.Merge

/-!
# Laws of lists of extra fields

Adding a record splits the list at the place where the record goes. That place depends on the id of
the record only, and none of the records before it has that id: `exists_add_eq`. So the streams of
two lists which differ in one added record differ in the bytes of that record only, and these stand
where `payloadOffset?` says: `PayloadStands`.

In most lists left-over bytes come last, if there are any: `LeftoverLast`. Adding and removing
records keeps it so. Of the other fields a record that is added changes neither value nor order,
`filter_add_of_not`.
-/

namespace ZipArchive.Extra.FieldList

variable {κ : Type}

/-- Only the last field may be bytes that form no record: nothing stands behind such bytes. -/
def LeftoverLast (fields : FieldList κ) : Prop :=
  fields.Pairwise fun f _ => f.isLeftover = false

instance (fields : FieldList κ) : Decidable fields.LeftoverLast :=
  inferInstanceAs (Decidable (fields.Pairwise fun f _ => f.isLeftover = false))

/-- What comes before another field is no left-over bytes. -/
theorem LeftoverLast.of_append {before after : FieldList κ} {f : Field κ}
    (h : LeftoverLast (before ++ f :: after)) : ∀ g ∈ before, g.isLeftover = false :=
  fun g hg => (List.pairwise_append.1 h).2.2 g hg f (List.mem_cons_self ..)

/-! ### Where a record goes -/

/-- The first field that satisfies `p` splits the list, and is replaced where it stands. -/
theorem replaceFirst?_cases (p : Field κ → Bool) (fields : FieldList κ) :
    (∃ before old after, fields = before ++ old :: after ∧ p old = true ∧
      (∀ f ∈ before, p f = false) ∧
      ∀ new, replaceFirst? p new fields = some (before ++ new :: after)) ∨
    ((∀ f ∈ fields, p f = false) ∧ ∀ new, replaceFirst? p new fields = none) := by
  induction fields with
  | nil => exact .inr ⟨by simp, fun _ => rfl⟩
  | cons f fs ih =>
    cases hf : p f with
    | true =>
      refine .inl ⟨[], f, fs, rfl, hf, by simp, fun new => ?_⟩
      simp [replaceFirst?, hf]
    | false =>
      rcases ih with ⟨before, old, after, rfl, hold, hbefore, hnew⟩ | ⟨hnone, hnew⟩
      · refine .inl ⟨f :: before, old, after, rfl, hold, ?_, fun new => ?_⟩
        · rintro g (_ | ⟨_, hg⟩)
          exacts [hf, hbefore g hg]
        · simp [replaceFirst?, hf, hnew]
      · refine .inr ⟨?_, fun new => by simp [replaceFirst?, hf, hnew]⟩
        rintro g (_ | ⟨_, hg⟩)
        exacts [hf, hnone g hg]

/-- A record added behind all others comes before left-over bytes in last place. -/
theorem exists_insertLast_eq (fields : FieldList κ) :
    ∃ before after : FieldList κ, fields = before ++ after ∧
      (fields.LeftoverLast → ∀ f ∈ before, f.isLeftover = false) ∧
      (∀ f ∈ after, f.isLeftover = true) ∧
      ∀ new, insertLast new fields = before ++ new :: after := by
  induction fields with
  | nil => exact ⟨[], [], rfl, by simp, by simp, fun _ => rfl⟩
  | cons f fs ih =>
    cases fs with
    | nil =>
      cases hf : f.isLeftover with
      | true => exact ⟨[], [f], rfl, by simp, by simp [hf], fun new => by simp [insertLast, hf]⟩
      | false => exact ⟨[f], [], rfl, by simp [hf], by simp, fun new => by simp [insertLast, hf]⟩
    | cons g gs =>
      obtain ⟨before, after, hsplit, hbefore, hafter, hnew⟩ := ih
      refine ⟨f :: before, after, by rw [hsplit, List.cons_append], fun h => ?_, hafter,
        fun new => by rw [insertLast, hnew, List.cons_append]; simp⟩
      obtain ⟨hhead, htail⟩ := List.pairwise_cons.1 h
      rintro g' (_ | ⟨_, hg⟩)
      · exact hhead g (List.mem_cons_self ..)
      · exact hbefore htail g' hg

/-- Left-over bytes in last place stay there when a record is added behind all others. -/
theorem getLast?_insertLast {fields : FieldList κ} {f : Field κ} (h : fields.getLast? = some f)
    (hf : f.isLeftover = true) (new : Field κ) : (insertLast new fields).getLast? = some f := by
  induction fields with
  | nil => cases h
  | cons g gs ih =>
    cases gs with
    | nil =>
      obtain rfl : g = f := Option.some.inj h
      rw [insertLast, if_pos hf]
      rfl
    | cons g' gs =>
      rw [List.getLast?_cons_cons] at h
      rw [insertLast, List.getLast?_cons, ih h, Option.getD_some]
      simp

variable [Record κ]

/-- Where a record with an id goes into a list: it has the same fields before and behind it whatever
else it holds. -/
theorem exists_add_eq (fields : FieldList κ) (id : UInt16) :
    ∃ before after : FieldList κ, (∀ f ∈ before, f.hasId id = false) ∧
      (fields.LeftoverLast → ∀ f ∈ before, f.isLeftover = false) ∧
      ∀ new : Field κ, new.isLeftover = false → new.id = id →
        fields.add new = before ++ new :: after := by
  -- the record takes the place of the first with its id, or goes last if there is none
  rcases replaceFirst?_cases (Field.hasId id) fields with
    ⟨before, old, after, rfl, -, hbefore, hnew⟩ | ⟨hnone, hnew⟩
  · refine ⟨before, after, hbefore, LeftoverLast.of_append, fun new hrec hid => ?_⟩
    simp [add, hrec, hid, hnew]
  · obtain ⟨before, after, hsplit, hbefore, -, hinsert⟩ := exists_insertLast_eq fields
    refine ⟨before, after, fun f hf => hnone f ?_, hbefore, fun new hrec hid => ?_⟩
    · rw [hsplit]
      exact List.mem_append_left _ hf
    · simp [add, hrec, hid, hnew, hinsert]

/-- A record takes the place of the first one with its id, or goes between two parts of the list if
there is none. -/
theorem add_cases (fields : FieldList κ) {new : Field κ} (hnew : new.isLeftover = false) :
    (∃ before old after, fields = before ++ old :: after ∧ old.hasId new.id = true ∧
      fields.add new = before ++ new :: after) ∨
    ∃ before after, fields = before ++ after ∧ (∀ f ∈ fields, f.hasId new.id = false) ∧
      (fields.LeftoverLast → ∀ f ∈ before, f.isLeftover = false) ∧
      fields.add new = before ++ new :: after := by
  have hadd : fields.add new =
      (replaceFirst? (Field.hasId new.id) new fields).getD (insertLast new fields) := by
    rw [add, hnew, if_neg Bool.false_ne_true]
  rcases replaceFirst?_cases (Field.hasId new.id) fields with
    ⟨before, old, after, hsplit, hold, -, hreplaced⟩ | ⟨hnone, hreplaced⟩
  · refine .inl ⟨before, old, after, hsplit, hold, ?_⟩
    rw [hadd, hreplaced, Option.getD_some]
  · obtain ⟨before, after, hsplit, hbefore, -, hinsert⟩ := exists_insertLast_eq fields
    refine .inr ⟨before, after, hsplit, hnone, hbefore, ?_⟩
    rw [hadd, hreplaced, Option.getD_none, hinsert]

/-- Whatever is in a list after a field was added was there before, or is that field. -/
theorem mem_of_mem_add {fields : FieldList κ} {new f : Field κ} (h : f ∈ fields.add new) :
    f = new ∨ f ∈ fields := by
  cases hnew : new.isLeftover with
  | true =>
    rw [add, if_pos hnew] at h
    rcases List.mem_append.1 h with hf | hf
    · exact .inr (List.mem_filter.1 hf).1
    · exact .inl (List.mem_singleton.1 hf)
  | false =>
    have hmem : ∀ before after : FieldList κ, f ∈ before ++ new :: after →
        f = new ∨ f ∈ before ++ after := by
      intro before after hf
      rcases List.mem_append.1 hf with hf | hf
      · exact .inr (List.mem_append_left _ hf)
      · exact (List.mem_cons.1 hf).imp_right (List.mem_append_right before)
    rcases fields.add_cases hnew with
      ⟨before, old, after, rfl, -, hadd⟩ | ⟨before, after, rfl, -, -, hadd⟩
    · have hskip : before ++ after ⊆ before ++ old :: after :=
        ((List.sublist_cons_self old after).append_left before).subset
      rw [hadd] at h
      exact (hmem before after h).imp_right fun hf => hskip hf
    · rw [hadd] at h
      exact hmem before after h

/-- So is whatever is in a list after several fields were added. -/
theorem mem_of_mem_foldl_add {news : List (Field κ)} {fields : FieldList κ} {f : Field κ}
    (h : f ∈ news.foldl add fields) : f ∈ news ∨ f ∈ fields := by
  induction news generalizing fields with
  | nil => exact .inr h
  | cons new news ih =>
    rcases ih h with hnews | hadded
    · exact .inl (List.mem_cons_of_mem _ hnews)
    · rcases mem_of_mem_add hadded with rfl | hold
      · exact .inl (List.mem_cons_self ..)
      · exact .inr hold

/-- Where the payload of a record stands behind fields that have another id. -/
theorem payloadOffset?_append {id : UInt16} {before after : FieldList κ} {new : Field κ}
    {front : Bytes} (hbefore : ∀ f ∈ before, f.hasId id = false) (hnew : new.hasId id = true)
    (hfront : merge .localHeader before = .ok front) :
    payloadOffset? id (before ++ new :: after) = some (front.length + 4) := by
  induction before generalizing front with
  | nil =>
    obtain rfl := Except.ok.inj hfront
    simp [payloadOffset?, hnew]
  | cons f before ih =>
    obtain ⟨x, y, hx, hy, rfl⟩ := merge_cons_eq_ok_iff.1 hfront
    have hf : f.hasId id = false := hbefore f (List.mem_cons_self ..)
    have hrest := ih (fun g hg => hbefore g (List.mem_cons_of_mem _ hg)) hy
    simp only [List.cons_append, payloadOffset?, hf, hrest, Bool.false_eq_true, if_false,
      Option.map_some, List.length_append, Field.length_toStream hx, Nat.add_assoc]

/-- The payload of the first record with an id stands in the stream for a local header between
`front`, which ends with the id of the record and the length of the payload, and `back`. -/
inductive PayloadStands (id : UInt16) : FieldList κ → Bytes → Bytes → Bytes → Prop
  /-- The fields before the record have another id, and those behind it may be any. -/
  | behind {before after : FieldList κ} {f : Field κ} {head back : Bytes}
      (hbefore : ∀ g ∈ before, g.hasId id = false) (hid : f.hasId id = true)
      (hhead : merge .localHeader before = .ok head)
      (hlength : (f.data .localHeader).length ≤ 65535)
      (hback : merge .localHeader after = .ok back) :
      PayloadStands id (before ++ f :: after)
        (head ++ (bytes16 id ++ Bytes.toLE 2 (f.data .localHeader).length))
        (f.data .localHeader) back

namespace PayloadStands

variable {id : UInt16} {fields : FieldList κ} {front payload back : Bytes}

/-- The payload is found where it stands. -/
theorem payloadOffset?_eq (h : PayloadStands id fields front payload back) :
    payloadOffset? id fields = some front.length := by
  obtain ⟨hbefore, hid, hhead, -, -⟩ := h
  rw [payloadOffset?_append hbefore hid hhead]
  simp

/-- The stream around the payload. -/
theorem merge_eq (h : PayloadStands id fields front payload back) :
    merge .localHeader fields = .ok (front ++ payload ++ back) := by
  obtain @⟨before, after, f, head, back, -, hid, hhead, hlength, hback⟩ := h
  obtain ⟨hrecord, hid⟩ : f.isLeftover = false ∧ f.id = id := by simpa [Field.hasId] using hid
  have hstream := (Field.toStream_eq_ok_iff hrecord).2 ⟨hlength, rfl⟩
  refine merge_append_eq_ok_iff.2 ⟨head, _, hhead,
    merge_cons_eq_ok_iff.2 ⟨_, back, hstream, hback, rfl⟩, ?_⟩
  simp only [hid, List.append_assoc]

end PayloadStands

/-! ### Left-over bytes stay last -/

theorem LeftoverLast.remove {fields : FieldList κ} (h : fields.LeftoverLast) (id : UInt16) :
    (fields.remove id).LeftoverLast :=
  List.Pairwise.sublist (List.eraseP_sublist ..) h

theorem LeftoverLast.add {fields : FieldList κ} (h : fields.LeftoverLast) {new : Field κ}
    (hnew : new.isLeftover = false) : (fields.add new).LeftoverLast := by
  rcases fields.add_cases hnew with
    ⟨before, old, after, rfl, -, hadd⟩ | ⟨before, after, rfl, -, hbefore, hadd⟩
  · obtain ⟨hfront, hback, -⟩ := List.pairwise_append.1 h
    rw [hadd]
    refine List.pairwise_append.2 ⟨hfront, ?_, fun f hf _ _ => h.of_append f hf⟩
    exact List.pairwise_cons.2 ⟨fun _ _ => hnew, (List.pairwise_cons.1 hback).2⟩
  · obtain ⟨hfront, hback, -⟩ := List.pairwise_append.1 h
    rw [hadd]
    refine List.pairwise_append.2 ⟨hfront, ?_, fun f hf _ _ => hbefore h f hf⟩
    exact List.pairwise_cons.2 ⟨fun _ _ => hnew, hback⟩

/-! ### What adding a record leaves alone -/

/-- A record that is added does not show in a part of the list that leaves out its id. -/
theorem filter_add_of_not {p : Field κ → Bool} (fields : FieldList κ) {new : Field κ}
    (hnew : new.isLeftover = false) (hp : ∀ f : Field κ, f.hasId new.id = true → p f = false) :
    (fields.add new).filter p = fields.filter p := by
  have hskip : ∀ (before after : FieldList κ) {f : Field κ}, f.hasId new.id = true →
      (before ++ f :: after).filter p = (before ++ after).filter p := by
    intro before after f hf
    have hnot : ¬p f = true := by simp [hp f hf]
    rw [List.filter_append, List.filter_append, List.filter_cons_of_neg hnot]
  have hself : new.hasId new.id = true := by simp [Field.hasId, hnew]
  rcases fields.add_cases hnew with
    ⟨before, old, after, rfl, hold, hadd⟩ | ⟨before, after, rfl, -, -, hadd⟩
  · rw [hadd, hskip before after hself, hskip before after hold]
  · rw [hadd, hskip before after hself]

/-- The records with an id. -/
def withId (id : UInt16) (fields : FieldList κ) : FieldList κ :=
  fields.filter (Field.hasId id)

/-- A record that is added comes instead of the first with its id. -/
theorem withId_add_self (fields : FieldList κ) {new : Field κ} (hnew : new.isLeftover = false) :
    (fields.add new).withId new.id = new :: (fields.withId new.id).tail := by
  have hself : new.hasId new.id = true := by simp [Field.hasId, hnew]
  have hnone : ∀ {fs : FieldList κ}, (∀ f ∈ fs, f.hasId new.id = false) →
      fs.filter (Field.hasId new.id) = [] := fun hfs =>
    List.filter_eq_nil_iff.2 fun f hf => by simp [hfs f hf]
  rw [withId, withId, add, hnew, if_neg Bool.false_ne_true]
  rcases replaceFirst?_cases (Field.hasId new.id) fields with
    ⟨before, old, after, rfl, hold, hbefore, hreplaced⟩ | ⟨hfields, hreplaced⟩
  · rw [hreplaced, Option.getD_some, List.filter_append, List.filter_append, hnone hbefore,
      List.filter_cons_of_pos hself, List.filter_cons_of_pos hold]
    rfl
  · obtain ⟨before, after, rfl, -, -, hinsert⟩ := exists_insertLast_eq fields
    obtain ⟨hbefore, hafter⟩ := List.forall_mem_append.1 hfields
    rw [hreplaced, Option.getD_none, hinsert, List.filter_append, List.filter_append,
      hnone hbefore, hnone hafter, List.filter_cons_of_pos hself, hnone hafter]
    rfl

/-- Records with another id stay the same. -/
theorem withId_add_of_ne (fields : FieldList κ) {new : Field κ} (hnew : new.isLeftover = false)
    {id : UInt16} (hid : new.id ≠ id) : (fields.add new).withId id = fields.withId id :=
  filter_add_of_not fields hnew fun f hf => by
    simp only [Field.hasId, Bool.and_eq_true, beq_iff_eq] at hf
    simp [Field.hasId, hf.2, hid]

/-- Left-over bytes in last place stay there when a record is added. -/
theorem getLast?_add {fields : FieldList κ} {f : Field κ} (h : fields.getLast? = some f)
    (hf : f.isLeftover = true) {new : Field κ} (hnew : new.isLeftover = false) :
    (fields.add new).getLast? = some f := by
  rcases replaceFirst?_cases (Field.hasId new.id) fields with
    ⟨before, old, after, rfl, hold, -, hreplaced⟩ | ⟨-, hreplaced⟩
  · rw [add, hnew, if_neg Bool.false_ne_true, hreplaced, Option.getD_some]
    cases after with
    | nil =>
      -- what is replaced is a record
      rw [List.getLast?_concat] at h
      obtain rfl := Option.some.inj h
      simp [Field.hasId, hf] at hold
    | cons g gs =>
      rw [List.getLast?_append_cons, List.getLast?_cons_cons] at h ⊢
      exact h
  · rw [add, hnew, if_neg Bool.false_ne_true, hreplaced, Option.getD_none]
    exact getLast?_insertLast h hf new
end ZipArchive.Extra.FieldList
