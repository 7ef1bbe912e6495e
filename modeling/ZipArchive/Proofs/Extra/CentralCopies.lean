import ZipArchive.Proofs.Extra.Records

/-!
# What central payloads do to a record

Some records hold a value once for both headers: all values of a Zip64 record, the time of
modification, the text of a Unicode record and the word of a request for alignment. When a central
payload is read, the local payload takes over what that payload says of such values,
`Field.localAfter`, and is kept in all else, `Field.ReadsTo.localData_eq`. Owner and group, the
marker of a jar, blobs and left-over bytes have their central payload apart, and keep the local one.
A blob without a payload of either kind is the exception: the first central payload becomes the
local one too, as if none had been read from a local header before.

A record takes in any number of central payloads one after the other, `Field.ReadsAll`. Its local
payload is the one that they make of it in turn: `Field.ReadsAll.localData_eq`.
-/

namespace ZipArchive.Extra

variable {κ : Type} {payload : Bytes}

private theorem localCopy_withCentral {o : Opaque}
    (h : o.centralCopy? = none → o.localCopy = [] → payload = []) :
    (o.withCentral payload).localCopy = o.localCopy := by
  rw [Opaque.withCentral]
  split
  case isTrue hnone =>
    rw [Bool.and_eq_true, Option.isNone_iff_eq_none, List.isEmpty_iff] at hnone
    rw [hnone.2, h hnone.1 hnone.2]
  case isFalse => rfl

private theorem centralCopy?_withCentral (o : Opaque) (payload : Bytes) :
    (o.withCentral payload).centralCopy? = some payload := by
  rw [Opaque.withCentral]
  split <;> rfl

private theorem length_localCopy_withCentral_le {o : Opaque} {n : ℕ} (ho : o.localCopy.length ≤ n)
    (hpayload : payload.length ≤ n) : (o.withCentral payload).localCopy.length ≤ n := by
  rw [Opaque.withCentral]
  split
  case isTrue => exact hpayload
  case isFalse => exact ho

namespace Field

/-- What the local payload `own` becomes when a central payload is read. -/
def localAfter (f : Field κ) (own central : Bytes) : Bytes :=
  match f with
  | zip64 _ => Zip64.localForm central
  | timestamp _ => Timestamp.withModifyBytes own (central.drop 1)
  | unicodePath _ => central
  | unicodeComment _ => central
  | alignment _ => central.take 2 ++ own.drop 2
  | _ => own

/-- What is not kept of a central payload does not touch the local one. -/
theorem localAfter_kept (f : Field κ) (own : Bytes) :
    f.localAfter own (f.kept .central payload) = f.localAfter own payload := by
  cases f with
  | alignment a =>
    have htake : Alignment.kept .central payload = payload.take 2 := rfl
    rw [kept, htake, localAfter, localAfter, List.take_take, Nat.min_self]
  | _ => rfl

/-- What is kept of a central payload is kept of it again. -/
theorem kept_kept (f : Field κ) : f.kept .central (f.kept .central payload) =
    f.kept .central payload := by
  cases f with
  | alignment a =>
    have htake : ∀ bs, Alignment.kept .central bs = bs.take 2 := fun bs => rfl
    rw [kept, kept, htake, htake, List.take_take, Nat.min_self]
  | _ => rfl

variable [Record κ]

namespace ReadsTo

variable {f g : Field κ} {place : Place}

omit [Record κ] in
/-- Reading does not change the kind of a record. -/
theorem localAfter_eq (h : ReadsTo payload place f g) : g.localAfter = f.localAfter := by
  cases h <;> rfl

omit [Record κ] in
theorem kept_eq (h : ReadsTo payload place f g) (place' : Place) :
    kept place' g = kept place' f := by
  cases h <;> rfl

omit [Record κ] in
theorem isSome_blob?_eq (h : ReadsTo payload place f g) : g.blob?.isSome = f.blob?.isSome := by
  cases h <;> rfl

omit [Record κ] in
/-- A blob that read a central payload has one. -/
theorem centralCopy?_ne_none (h : ReadsTo payload .central f g) {o : Opaque}
    (ho : g.blob? = some o) : o.centralCopy? ≠ none := by
  cases h with
  | certificateCentral o' | unrecognizedCentral o' =>
    obtain rfl := Option.some.inj ho
    rw [centralCopy?_withCentral]
    exact Option.some_ne_none payload
  | _ => cases ho

/-- A central payload changes the local one in the values that are held once. Of a blob, the local
payload is kept if there is a payload of either kind, or if nothing comes in. -/
theorem localData_eq (h : ReadsTo payload .central f g)
    (hblob : ∀ o, f.blob? = some o → o.centralCopy? = none → o.localCopy = [] → payload = []) :
    g.data .localHeader = f.localAfter (f.data .localHeader) payload := by
  cases h with
  | zip64Central h => exact Zip64.localData_of_ofCentral h
  | timestampCentral h => exact Timestamp.localData_of_withCentral h
  | ownershipCentral o => rfl
  | unicodePath _ h => exact UnicodeText.payload_of_ofPayload h
  | unicodeComment _ h => exact UnicodeText.payload_of_ofPayload h
  | alignmentCentral a h => exact congrArg (· ++ _) (a.bytes16_word_withWord h)
  | jarMarker _ m h => rfl
  | certificateCentral o => exact localCopy_withCentral (hblob o rfl)
  | unrecognizedCentral o => exact localCopy_withCentral (hblob o rfl)
  | leftoverCentral l => rfl

/-- The local payload stays short enough to be written. -/
theorem length_localData_le (h : ReadsTo payload .central f g) (hpayload : payload.length ≤ 65535)
    (hf : (f.data .localHeader).length ≤ 65535) : (g.data .localHeader).length ≤ 65535 := by
  cases h with
  | @zip64Central z z' h => exact z'.length_localData_le.trans (by decide)
  | @timestampCentral t t' h => exact t'.length_localData_le.trans (by decide)
  | ownershipCentral o => exact hf
  | unicodePath _ h =>
    exact (congrArg List.length (UnicodeText.payload_of_ofPayload h)).trans_le hpayload
  | unicodeComment _ h =>
    exact (congrArg List.length (UnicodeText.payload_of_ofPayload h)).trans_le hpayload
  | alignmentCentral a h =>
    have hlength : (a.withWord payload).localData.length = a.localData.length :=
      (a.withWord payload).length_localData.trans a.length_localData.symm
    exact hlength.trans_le hf
  | jarMarker _ m h => exact hf
  | certificateCentral o => exact length_localCopy_withCentral_le hf hpayload
  | unrecognizedCentral o => exact length_localCopy_withCentral_le hf hpayload
  | leftoverCentral l => exact hf

/-- The central payload of a record that was read from a local header is short enough to be written
too. -/
theorem length_centralData_le (h : ReadsTo payload .localHeader f g)
    (hpayload : payload.length ≤ 65535) (hf : (f.data .central).length ≤ 65535) :
    (g.data .central).length ≤ 65535 := by
  have hopaque : ∀ copy? : Option Bytes, ∀ own : Bytes, (copy?.getD own).length ≤ 65535 →
      (copy?.getD payload).length ≤ 65535 := by
    intro copy? own hown
    cases copy? with
    | none => exact hpayload
    | some copy => exact hown
  cases h with
  | @zip64Local z z' h => exact z'.length_centralData_le.trans (by decide)
  | @timestampLocal t t' h => exact t'.length_centralData_le.trans (by decide)
  | ownershipLocal h =>
    exact (congrArg List.length (Ownership.centralData_of_withLocal h)).trans_le hf
  | unicodePath _ h =>
    exact (congrArg List.length (UnicodeText.payload_of_ofPayload h)).trans_le hpayload
  | unicodeComment _ h =>
    exact (congrArg List.length (UnicodeText.payload_of_ofPayload h)).trans_le hpayload
  | alignmentLocal a h => exact (Nat.le_of_eq (Alignment.length_centralData _)).trans (by decide)
  | jarMarker _ m h => exact hf
  | certificateLocal o => exact hopaque o.centralCopy? o.localCopy hf
  | unrecognizedLocal o => exact hopaque o.centralCopy? o.localCopy hf
  | leftoverLocal l => exact hopaque l.centralCopy? l.localCopy hf

/-- A central payload that is read, and written again, is read by every record of the same kind,
whatever was read into that from a local header. -/
theorem exists_read {own : Bytes} {f' : Field κ} (hown : ReadsTo own .localHeader f f')
    (h : ReadsTo payload .central f g) :
    ∃ g', f'.read .central (g.data .central) = (.ok (), g') := by
  have hdata := h.data_eq
  cases h with
  | zip64Central h =>
    cases hown with
    | zip64Local _ =>
      rw [hdata]
      exact ⟨_, read_of_readsTo (.zip64Central h)⟩
  | timestampCentral h =>
    cases hown with
    | @timestampLocal _ t _ =>
      obtain ⟨t', ht'⟩ := Timestamp.exists_withCentral h t
      rw [hdata]
      exact ⟨_, read_of_readsTo (.timestampCentral ht')⟩
  | ownershipCentral o =>
    cases hown with
    | ownershipLocal _ => exact ⟨_, read_of_readsTo (.ownershipCentral _)⟩
  | unicodePath _ h =>
    cases hown with
    | unicodePath _ _ =>
      rw [hdata]
      exact ⟨_, read_of_readsTo (.unicodePath .central h)⟩
  | unicodeComment _ h =>
    cases hown with
    | unicodeComment _ _ =>
      rw [hdata]
      exact ⟨_, read_of_readsTo (.unicodeComment .central h)⟩
  | alignmentCentral a h =>
    cases hown with
    | alignmentLocal _ _ =>
      have hlength : 2 ≤ ((alignment (a.withWord payload) : Field κ).data .central).length :=
        Nat.le_of_eq (Alignment.length_centralData _).symm
      exact ⟨_, read_of_readsTo (.alignmentCentral _ hlength)⟩
  | jarMarker _ m h =>
    cases hown with
    | jarMarker _ _ _ => exact ⟨_, rfl⟩
  | certificateCentral o =>
    cases hown with
    | certificateLocal _ => exact ⟨_, read_of_readsTo (.certificateCentral _)⟩
  | unrecognizedCentral o =>
    cases hown with
    | unrecognizedLocal _ => exact ⟨_, read_of_readsTo (.unrecognizedCentral _)⟩
  | leftoverCentral l =>
    cases hown with
    | leftoverLocal _ => exact ⟨_, read_of_readsTo (.leftoverCentral _)⟩

end ReadsTo

/-- From central payloads one after the other, the first field becomes the second. -/
inductive ReadsAll : List Bytes → Field κ → Field κ → Prop
  | nil (f : Field κ) : ReadsAll [] f f
  | cons {p : Bytes} {ps : List Bytes} {f g h : Field κ} (hread : ReadsTo p .central f g)
      (hrest : ReadsAll ps g h) : ReadsAll (p :: ps) f h

namespace ReadsAll

variable {f g : Field κ} {ps : List Bytes}

theorem id_eq (h : ReadsAll ps f g) : g.id = f.id := by
  induction h with
  | nil f => rfl
  | cons hread _ ih => exact ih.trans hread.id_eq

/-- The local payload is what the central payloads make of it in turn, but for a blob without a
payload of either kind, which takes the first of them for its local one. -/
theorem localData_eq (h : ReadsAll ps f g) (hblob : ∀ o, f.blob? = some o →
      o.centralCopy? = none → o.localCopy = [] → ∀ p ∈ ps.head?, p = []) :
    g.data .localHeader = ps.foldl f.localAfter (f.data .localHeader) := by
  induction h with
  | nil f => rfl
  | @cons p ps f g h hread hrest ih =>
    have hlocal := hread.localData_eq fun o ho hnone hempty => hblob o ho hnone hempty p rfl
    rw [ih, List.foldl_cons, hlocal, hread.localAfter_eq]
    exact fun o ho hnone => absurd hnone (hread.centralCopy?_ne_none ho)

end ReadsAll

end Field

end ZipArchive.Extra
