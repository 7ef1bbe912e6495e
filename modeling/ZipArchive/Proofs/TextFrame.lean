import ZipArchive.Proofs.HeaderText

/-!
# What stays when the text of an entry is written

Writing the text of an entry fails and leaves the entry as it is, or it sets the flag for UTF-8 and
adds up to two records. Nothing else of the entry changes, no other extra field and not the order of
these, and under the flag the bytes are UTF-8: `Entry.encodeText_frame`.

A record that is asked for where it is needed is added for every text that the charset does not
represent, unless this is only because of control characters that ISO-2022-JP refuses. These are
left out of account: a name with one of them is written with an escape that does not read back as
it, and has no record beside it, `Entry.encodeText_sampleShifted`.
-/

namespace ZipArchive

open Extra (FieldList Record UnicodeText)

variable {κ : Type} [Record κ]

/-- The fields that are neither a record with the UTF-8 form of a name nor one of a comment. -/
def Extra.FieldList.others (fields : FieldList κ) : FieldList κ :=
  fields.filter fun f => !f.hasId UnicodeText.pathId && !f.hasId UnicodeText.commentId

/-- How an entry differs from what it was before its text was written. -/
structure Entry.TextFrame (e : Entry κ) (o : NameOptions) (text : EncodedText) (e' : Entry κ) :
    Prop where
  /-- The flag for UTF-8 and the extra fields differ at most. -/
  exists_eq : ∃ utf8Names extra, e' = { e with flags := { e.flags with utf8Names }, extra }
  /-- All other extra fields are the same, in the same order. -/
  others_eq : e'.extra.others = e.extra.others
  /-- Left-over bytes in last place stay there. -/
  getLast?_eq : ∀ f, e.extra.getLast? = some f → f.isLeftover = true → e'.extra.getLast? = some f
  /-- A record for the name is added, or put in the place of the first, as the options say: always,
  or if the charset does not represent the name, the characters left out that ISO-2022-JP refuses. -/
  path_eq : e'.extra.withId UnicodeText.pathId =
    if o.unicodeRecords = .always ∨ o.unicodeRecords = .whenNeeded ∧
        o.encoding.represents (o.encoding.withoutRefused e.name) = false then
      .unicodePath (.ofText e.name text.name) :: (e.extra.withId UnicodeText.pathId).tail
    else e.extra.withId UnicodeText.pathId
  /-- So is one for the comment, unless that is empty. -/
  comment_eq : e'.extra.withId UnicodeText.commentId =
    if e.commentText ≠ "" ∧ (o.unicodeRecords = .always ∨ o.unicodeRecords = .whenNeeded ∧
        o.encoding.represents (o.encoding.withoutRefused e.commentText) = false) then
      .unicodeComment (.ofText e.commentText text.comment) ::
        (e.extra.withId UnicodeText.commentId).tail
    else e.extra.withId UnicodeText.commentId
  /-- Under the flag, the bytes are those of UTF-8. -/
  utf8_eq : e'.flags.utf8Names = true →
    text.name = e.name.toUTF8.data.toList ∧ text.comment = e.commentText.toUTF8.data.toList

private theorem UnicodeRecords.apply_iff {p : UnicodeRecords} {encodable : Bool} :
    p.apply encodable = true ↔ p = .always ∨ p = .whenNeeded ∧ encodable = false := by
  cases p with
  | never => simp [apply]
  | always => simp [apply]
  | whenNeeded => simp [apply]

namespace Extra.FieldList

variable {records : List (Field κ)}

/-- The records with the UTF-8 form of a name or a comment are no other fields. -/
theorem others_foldl_add (hrecords : ∀ f ∈ records, f.isLeftover = false ∧
      (f.id = UnicodeText.pathId ∨ f.id = UnicodeText.commentId)) (fields : FieldList κ) :
    others (records.foldl add fields) = fields.others := by
  induction records generalizing fields with
  | nil => rfl
  | cons new records ih =>
    obtain ⟨⟨hnew, hid⟩, hrest⟩ := List.forall_mem_cons.1 hrecords
    rw [List.foldl_cons, ih hrest]
    refine filter_add_of_not fields hnew fun f hf => ?_
    rcases hid with hid | hid
    · rw [hid] at hf
      simp [hf]
    · rw [hid] at hf
      simp [hf]

theorem getLast?_foldl_add (hrecords : ∀ f ∈ records, f.isLeftover = false) {fields : FieldList κ}
    {f : Field κ} (h : fields.getLast? = some f) (hf : f.isLeftover = true) :
    (records.foldl add fields).getLast? = some f := by
  induction records generalizing fields with
  | nil => exact h
  | cons new records ih =>
    obtain ⟨hnew, hrest⟩ := List.forall_mem_cons.1 hrecords
    exact ih hrest (getLast?_add h hf hnew)

/-- A record that may be added. -/
theorem withId_foldl_ite_self (c : Bool) (new : Field κ) (hnew : new.isLeftover = false)
    (fields : FieldList κ) :
    withId new.id ((if c then [new] else []).foldl add fields) =
      if c then new :: (fields.withId new.id).tail else fields.withId new.id := by
  cases c with
  | true => exact withId_add_self fields hnew
  | false => rfl

theorem withId_foldl_ite_of_ne (c : Bool) (new : Field κ) (hnew : new.isLeftover = false)
    {id : UInt16} (hid : new.id ≠ id) (fields : FieldList κ) :
    withId id ((if c then [new] else []).foldl add fields) = fields.withId id := by
  cases c with
  | true => exact withId_add_of_ne fields hnew hid
  | false => rfl

end Extra.FieldList

namespace Entry

variable {e e' : Entry κ} {o : NameOptions} {text : EncodedText}

private theorem id_of_mem_textRecords {f : Extra.Field κ} (h : f ∈ e.textRecords o text) :
    f.isLeftover = false ∧ (f.id = UnicodeText.pathId ∨ f.id = UnicodeText.commentId) := by
  rcases of_mem_textRecords h with rfl | rfl
  · exact ⟨rfl, .inl rfl⟩
  · exact ⟨rfl, .inr rfl⟩

/-- The records with the UTF-8 form of the name, after its text was written. -/
theorem withId_pathId_textRecords :
    FieldList.withId UnicodeText.pathId ((e.textRecords o text).foldl FieldList.add e.extra) =
      if o.unicodeRecords = .always ∨ o.unicodeRecords = .whenNeeded ∧
          o.encoding.represents (o.encoding.withoutRefused e.name) = false then
        .unicodePath (.ofText e.name text.name) :: (e.extra.withId UnicodeText.pathId).tail
      else e.extra.withId UnicodeText.pathId := by
  have hne : UnicodeText.commentId ≠ UnicodeText.pathId := by decide
  simp only [← UnicodeRecords.apply_iff, ← TextEncoding.canEncode_eq_represents]
  rw [textRecords, List.foldl_append,
    FieldList.withId_foldl_ite_of_ne _ (.unicodeComment (.ofText e.commentText text.comment)) rfl
      hne]
  exact FieldList.withId_foldl_ite_self _ (.unicodePath (.ofText e.name text.name)) rfl e.extra

/-- The records with the UTF-8 form of the comment, after its text was written. -/
theorem withId_commentId_textRecords :
    FieldList.withId UnicodeText.commentId ((e.textRecords o text).foldl FieldList.add e.extra) =
      if e.commentText ≠ "" ∧ (o.unicodeRecords = .always ∨ o.unicodeRecords = .whenNeeded ∧
          o.encoding.represents (o.encoding.withoutRefused e.commentText) = false) then
        .unicodeComment (.ofText e.commentText text.comment) ::
          (e.extra.withId UnicodeText.commentId).tail
      else e.extra.withId UnicodeText.commentId := by
  have hne : UnicodeText.pathId ≠ UnicodeText.commentId := by decide
  have hempty : e.commentText ≠ "" ↔ (!e.commentText.isEmpty) = true := by simp
  simp only [hempty, ← UnicodeRecords.apply_iff, ← TextEncoding.canEncode_eq_represents,
    ← Bool.and_eq_true]
  rw [textRecords, List.foldl_append, ← FieldList.withId_foldl_ite_of_ne
    (o.unicodeRecords.apply (o.encoding.canEncode e.name))
    (.unicodePath (.ofText e.name text.name)) rfl hne e.extra]
  exact FieldList.withId_foldl_ite_self _ (.unicodeComment (.ofText e.commentText text.comment))
    rfl _

omit [Record κ] in
private theorem utf8_of_isFlagged (hflag : e.isFlagged o = true) {s : String} {bs : Bytes}
    (h : (e.textEncoding o).encode s = .ok bs) : bs = s.toUTF8.data.toList := by
  rw [isFlagged, Bool.and_eq_true] at hflag
  rw [TextEncoding.encode, hflag.1, if_pos rfl] at h
  rw [← Except.ok.inj h, Charset.Utf8.ofText_toList]

/-- Writing the text of an entry changes nothing if it fails, and otherwise only the flag for UTF-8
and the records with the UTF-8 form of the name and the comment. If these are asked for only where
they are needed, they are added exactly for the texts that the charset does not represent, the
characters left out that ISO-2022-JP refuses. A text that has none is not changed by leaving them
out, `TextEncoding.withoutRefused_eq_self`. -/
theorem encodeText_frame (e : Entry κ) (o : NameOptions) :
    (∀ fault e', e.encodeText o = (.error fault, e') → e' = e) ∧
      ∀ text e', e.encodeText o = (.ok text, e') → e.TextFrame o text e' := by
  refine ⟨fun _ _ h => eq_of_encodeText_eq_error h, fun text e' h => ?_⟩
  obtain ⟨hname, hcomment, rfl⟩ := of_encodeText_eq_ok h
  refine ⟨⟨_, _, rfl⟩, ?_, fun f hlast hf => ?_, withId_pathId_textRecords,
    withId_commentId_textRecords, fun hflag => ⟨?_, ?_⟩⟩
  · exact FieldList.others_foldl_add (fun _ => id_of_mem_textRecords) e.extra
  · exact FieldList.getLast?_foldl_add (fun f hf => (id_of_mem_textRecords hf).1) hlast hf
  · exact utf8_of_isFlagged hflag hname
  · exact utf8_of_isFlagged hflag hcomment

end Entry

/-- An entry with a record for an earlier name, a marker behind it, and left-over bytes. -/
def sampleTailed : Entry Empty where
  name := "Ωmega"
  comment? := some "Ω"
  extra :=
    [.unicodePath { checksum := 7, text := [] }, .jarMarker {}, .leftover { localCopy := [1] }]

/-- The fallback policy, under which the call succeeds, and the strict one, under which it fails. -/
def sampleTextOptions (policy : TextEncoding.Policy) : NameOptions :=
  { encoding := { charset := .page .windows1252, policy }, unicodeRecords := .whenNeeded }

/-- Under the fallback policy the record for the name takes the place of the earlier one, and the one
for the comment goes before the left-over bytes. Under the strict policy the entry stays as it
is. -/
theorem Entry.encodeText_frame_sampleTailed :
    (∃ text e', sampleTailed.encodeText (sampleTextOptions .fallback) = (.ok text, e') ∧
      e'.extra.others = [.jarMarker {}, .leftover { localCopy := [1] }] ∧
      e'.extra.getLast? = some (.leftover { localCopy := [1] }) ∧
      e'.extra.withId UnicodeText.pathId = [.unicodePath (.ofText "Ωmega" text.name)] ∧
      e'.extra.withId UnicodeText.commentId = [.unicodeComment (.ofText "Ω" text.comment)]) ∧
    ∃ fault,
      sampleTailed.encodeText (sampleTextOptions .strict) = (.error fault, sampleTailed) := by
  obtain ⟨-, hok⟩ := Entry.encodeText_frame sampleTailed (sampleTextOptions .fallback)
  obtain ⟨hfail, -⟩ := Entry.encodeText_frame sampleTailed (sampleTextOptions .strict)
  constructor
  · have hisOk : (sampleTailed.encodeText (sampleTextOptions .fallback)).1.isOk = true := by
      decide +kernel
    cases hcall : sampleTailed.encodeText (sampleTextOptions .fallback) with
    | mk result e' =>
      cases result with
      | error fault =>
        rw [hcall] at hisOk
        cases hisOk
      | ok text =>
        have hframe := hok text e' hcall
        refine ⟨text, e', rfl, hframe.others_eq, hframe.getLast?_eq _ rfl rfl, ?_, ?_⟩
        · rw [hframe.path_eq, if_pos (.inr ⟨rfl, by decide +kernel⟩)]
          rfl
        · rw [hframe.comment_eq, if_pos ⟨by decide, .inr ⟨rfl, by decide +kernel⟩⟩]
          rfl
  · have hisOk : (sampleTailed.encodeText (sampleTextOptions .strict)).1.isOk = false := by
      decide +kernel
    cases hcall : sampleTailed.encodeText (sampleTextOptions .strict) with
    | mk result e' =>
      cases result with
      | error fault => exact ⟨fault, by rw [hfail fault e' hcall]⟩
      | ok text =>
        rw [hcall] at hisOk
        cases hisOk

/-- An entry with a control character in its name that ISO-2022-JP refuses. -/
def sampleShifted : Entry Empty :=
  { name := "abc\u000E" }

/-- ISO-2022-JP, and a record with the UTF-8 form for what it does not hold. -/
def sampleShiftedOptions : NameOptions :=
  { encoding := { charset := .iso2022Jp, policy := .fallback }, unicodeRecords := .whenNeeded }

/-- The charset does not represent the name, and it is written with an escape, of the replacement
character at that. A record is needed, and none is added. -/
theorem Entry.encodeText_sampleShifted :
    sampleShiftedOptions.encoding.represents sampleShifted.name = false ∧
      ∃ text e', sampleShifted.encodeText sampleShiftedOptions = (.ok text, e') ∧
        text.name = [0x61, 0x62, 0x63, 0x25, 0x55, 0x46, 0x46, 0x46, 0x44] ∧
        e'.extra.withId UnicodeText.pathId = [] := by
  have hname : EncodedText.name <$> (sampleShifted.encodeText sampleShiftedOptions).1 =
      .ok [0x61, 0x62, 0x63, 0x25, 0x55, 0x46, 0x46, 0x46, 0x44] := by decide +kernel
  obtain ⟨text, htext, hbytes⟩ := map_eq_ok_iff.1 hname
  exact ⟨by decide +kernel, text, _, Prod.ext htext rfl, hbytes, by decide +kernel⟩

end ZipArchive
