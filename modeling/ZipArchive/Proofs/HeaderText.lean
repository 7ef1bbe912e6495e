import ZipArchive.Proofs.Extra.FieldList
import ZipArchive.Proofs.Extra.UnicodeText
import ZipArchive.Proofs.TextEncoding
import ZipArchive.Names

/-!
# Names and comments read back

A writer picks one encoding for the name and the comment of an entry, sets the flag for UTF-8, and
may put records with the UTF-8 form beside them: `Entry.TextWritten`. A reader goes by the flag, by
such a record or by the encoding of the archive, and whichever it is, it finds the same name and the
same comment: `decodeText_encodeText`.
-/

namespace ZipArchive

open Extra (Field FieldList Record UnicodeText)

variable {κ : Type}

/-! ### What is written -/

/-- Whether an entry is switched to UTF-8. -/
def Entry.isSwitched (e : Entry κ) (o : NameOptions) : Bool :=
  !o.encoding.canEncode e.name && o.fallbackToUtf8

/-- The encoding of the name and the comment of an entry. -/
def Entry.textEncoding (e : Entry κ) (o : NameOptions) : TextEncoding :=
  if e.isSwitched o then .utf8 o.encoding.policy else o.encoding

/-- Whether the flag for UTF-8 is set for an entry. -/
def Entry.isFlagged (e : Entry κ) (o : NameOptions) : Bool :=
  (e.textEncoding o).isUtf8 && (o.utf8Flag || e.isSwitched o)

/-- Without the flag, the encoding is that of the archive. -/
theorem Entry.textEncoding_of_not_flagged {e : Entry κ} {o : NameOptions}
    (h : e.isFlagged o = false) : e.textEncoding o = o.encoding := by
  cases hswitched : e.isSwitched o with
  | false => rw [textEncoding, hswitched, if_neg Bool.false_ne_true]
  | true =>
    have hutf8 : (e.textEncoding o).isUtf8 = true := by
      rw [textEncoding, hswitched, if_pos rfl]
      rfl
    rw [isFlagged, hutf8, hswitched, Bool.or_true] at h
    cases h

/-- The second entry is the first with a value of the flag, and with no other extra fields than it
had but records for its name and its comment. -/
structure Entry.TaggedBy (e : Entry κ) (utf8Names : Bool) (name comment : Bytes) (e' : Entry κ) :
    Prop where
  name_eq : e'.name = e.name
  comment_eq : e'.comment? = e.comment?
  flag_eq : e'.flags.utf8Names = utf8Names
  extra : ∀ f ∈ e'.extra, f ∈ e.extra ∨ f = .unicodePath (.ofText e.name name) ∨
    f = .unicodeComment (.ofText e.commentText comment)

/-- How the name and the comment of an entry stand in its header, and what says so. -/
structure Entry.TextWritten (e : Entry κ) (o : NameOptions) (text : EncodedText) (e' : Entry κ) :
    Prop where
  name_eq : (e.textEncoding o).encode e.name = .ok text.name
  comment_eq : (e.textEncoding o).encode e.commentText = .ok text.comment
  tagged : e.TaggedBy (e.isFlagged o) text.name text.comment e'

/-- The records that are added to an entry when its text is written. -/
def Entry.textRecords (e : Entry κ) (o : NameOptions) (text : EncodedText) : List (Extra.Field κ) :=
  (if o.unicodeRecords.apply (o.encoding.canEncode e.name) then
    [.unicodePath (.ofText e.name text.name)] else []) ++
  (if !e.commentText.isEmpty && o.unicodeRecords.apply (o.encoding.canEncode e.commentText) then
    [.unicodeComment (.ofText e.commentText text.comment)] else [])

theorem Entry.of_mem_textRecords {e : Entry κ} {o : NameOptions} {text : EncodedText}
    {f : Extra.Field κ} (h : f ∈ e.textRecords o text) :
    f = .unicodePath (.ofText e.name text.name) ∨
      f = .unicodeComment (.ofText e.commentText text.comment) := by
  rcases List.mem_append.1 h with hpath | hcomment
  · exact .inl (List.mem_singleton.1 (List.mem_ite_nil_right.1 hpath).2)
  · exact .inr (List.mem_singleton.1 (List.mem_ite_nil_right.1 hcomment).2)

section Calls

variable [Record κ] {e e' : Entry κ} {o : NameOptions} {text : EncodedText}

/-- What a call does that succeeds: both texts are written in one encoding, the flag is set, and
records are added one after the other. -/
theorem Entry.of_encodeText_eq_ok (h : e.encodeText o = (.ok text, e')) :
    (e.textEncoding o).encode e.name = .ok text.name ∧
      (e.textEncoding o).encode e.commentText = .ok text.comment ∧
      e' = { e with
        flags := { e.flags with utf8Names := e.isFlagged o }
        extra := (e.textRecords o text).foldl FieldList.add e.extra } := by
  simp only [encodeText] at h
  split at h
  case h_1 name comment hname hcomment =>
    obtain ⟨htext, he'⟩ := Prod.mk.inj h
    obtain rfl := Except.ok.inj htext
    refine ⟨hname, hcomment, ?_⟩
    rw [← he', textRecords]
    -- the comment is looked at after the record for the name was added, which does not change it
    cases o.unicodeRecords.apply (o.encoding.canEncode e.name) with
    | true =>
      cases hadded : !e.commentText.isEmpty &&
          o.unicodeRecords.apply (o.encoding.canEncode e.commentText) with
      | true => exact if_pos hadded
      | false => exact if_neg (Bool.eq_false_iff.1 hadded)
    | false =>
      cases hadded : !e.commentText.isEmpty &&
          o.unicodeRecords.apply (o.encoding.canEncode e.commentText) with
      | true => exact if_pos hadded
      | false => exact if_neg (Bool.eq_false_iff.1 hadded)
  case h_2 => cases h
  case h_3 => cases h

/-- A call that fails changes nothing. -/
theorem Entry.eq_of_encodeText_eq_error {fault : Fault} (h : e.encodeText o = (.error fault, e')) :
    e' = e := by
  simp only [encodeText] at h
  split at h
  case h_1 => cases h
  case h_2 => exact (congrArg Prod.snd h).symm
  case h_3 => exact (congrArg Prod.snd h).symm

theorem Entry.textWritten_of_encodeText (h : e.encodeText o = (.ok text, e')) :
    e.TextWritten o text e' := by
  obtain ⟨hname, hcomment, rfl⟩ := of_encodeText_eq_ok h
  refine ⟨hname, hcomment, rfl, rfl, rfl, fun f hf => ?_⟩
  rcases FieldList.mem_of_mem_foldl_add hf with hnew | hold
  · exact .inr (of_mem_textRecords hnew)
  · exact .inl hold

end Calls

/-! ### What is read -/

/-- Where all elements that give a value give the same, the first of them does. -/
theorem findSome?_cases {α β : Type} {f : α → Option β} {b : β} {xs : List α}
    (h : ∀ x ∈ xs, f x = none ∨ f x = some b) :
    xs.findSome? f = none ∨ xs.findSome? f = some b := by
  cases hfound : xs.findSome? f with
  | none => exact .inl rfl
  | some b' =>
    obtain ⟨x, hx, hb'⟩ := List.exists_of_findSome?_eq_some hfound
    refine .inr ?_
    rcases h x hx with hnone | hsome
    · cases hnone.symm.trans hb'
    · exact hb'.symm.trans hsome

/-- Without the flag, a text that a record gives goes before the one that the bytes give. -/
theorem decodeText_eq_ok {rawName rawComment : Bytes} {flags : Flags} {legacy : TextEncoding}
    {name comment : String} (extra : FieldList κ) (hflag : flags.utf8Names = false)
    (hname : legacy.decode rawName = .ok name) (hcomment : legacy.decode rawComment = .ok comment) :
    decodeText rawName rawComment flags extra legacy =
      .ok { name := (unicodePath? extra rawName).getD name
            comment := (if rawComment.isEmpty then none
              else unicodeComment? extra rawComment).getD comment } := by
  -- four cases, as there is a record for the name or not, and one for the comment or not
  simp only [decodeText, hflag, Bool.false_eq_true, if_false]
  cases unicodePath? extra rawName with
  | none =>
    rw [hname]
    cases (if rawComment.isEmpty then none else unicodeComment? extra rawComment) with
    | none =>
      rw [hcomment]
      rfl
    | some text => rfl
  | some text =>
    cases (if rawComment.isEmpty then none else unicodeComment? extra rawComment) with
    | none =>
      rw [hcomment]
      rfl
    | some text => rfl

namespace Entry.TextWritten

variable {e e' : Entry κ} {o : NameOptions} {text : EncodedText}

private theorem unicodePath?_cases (h : e.TextWritten o text e')
    (hnew : ∀ u, Field.unicodePath u ∉ e.extra) :
    unicodePath? e'.extra text.name = none ∨ unicodePath? e'.extra text.name = some e.name := by
  refine findSome?_cases fun f hf => ?_
  rcases h.tagged.extra f hf with hold | rfl | rfl
  · split
    case h_1 u => exact absurd hold (hnew u)
    case h_2 => exact .inl rfl
  · exact .inr (UnicodeText.textFor?_ofText e.name text.name)
  · exact .inl rfl

private theorem unicodeComment?_cases (h : e.TextWritten o text e')
    (hnew : ∀ u, Field.unicodeComment u ∉ e.extra) :
    unicodeComment? e'.extra text.comment = none ∨
      unicodeComment? e'.extra text.comment = some e.commentText := by
  refine findSome?_cases fun f hf => ?_
  rcases h.tagged.extra f hf with hold | rfl | rfl
  · split
    case h_1 u => exact absurd hold (hnew u)
    case h_2 => exact .inl rfl
  · exact .inl rfl
  · exact .inr (UnicodeText.textFor?_ofText e.commentText text.comment)

/-- Under the flag, name and comment are UTF-8 for every reader. -/
theorem decodeText_of_flag (h : e.TextWritten o text e') (hflag : e'.flags.utf8Names = true)
    (legacy : TextEncoding) :
    decodeText text.name text.comment e'.flags e'.extra legacy =
      .ok { name := e.name, comment := e.commentText } := by
  have hisUtf8 : (e.textEncoding o).isUtf8 = true := by
    rw [h.tagged.flag_eq, isFlagged, Bool.and_eq_true] at hflag
    exact hflag.1
  have hutf8 : ∀ {s : String} {bs : Bytes}, (e.textEncoding o).encode s = .ok bs →
      (TextEncoding.utf8 legacy.policy).decode bs = .ok s := by
    intro s bs hs
    rw [TextEncoding.encode, hisUtf8, if_pos rfl] at hs
    obtain rfl := Except.ok.inj hs
    exact TextEncoding.decode_utf8 legacy.policy s
  simp only [decodeText, hflag, if_true, hutf8 h.name_eq, hutf8 h.comment_eq]
  rfl

/-- Without the flag, a reader that knows the encoding finds the name and the comment in the
bytes. -/
theorem decode_of_no_flag (h : e.TextWritten o text e') (hflag : e'.flags.utf8Names = false)
    (hwritable : o.encoding.charset = .iso2022Jp →
      ∀ ch ∈ e.name.toList ++ e.commentText.toList, Charset.Iso2022Jp.IsWritable ch) :
    o.encoding.decode text.name = .ok e.name ∧
      o.encoding.decode text.comment = .ok e.commentText := by
  have hencoding : e.textEncoding o = o.encoding :=
    textEncoding_of_not_flagged (h.tagged.flag_eq.symm.trans hflag)
  constructor
  · exact TextEncoding.decode_of_encode (hencoding ▸ h.name_eq) fun _ hcharset ch hch =>
      hwritable hcharset ch (List.mem_append_left _ hch)
  · exact TextEncoding.decode_of_encode (hencoding ▸ h.comment_eq) fun _ hcharset ch hch =>
      hwritable hcharset ch (List.mem_append_right _ hch)

/-- Without the flag, a reader that knows the encoding finds the same in a record as in the
bytes. -/
theorem decodeText_of_no_flag (h : e.TextWritten o text e') (hflag : e'.flags.utf8Names = false)
    (hpath : ∀ u, Field.unicodePath u ∉ e.extra) (hcomment : ∀ u, Field.unicodeComment u ∉ e.extra)
    (hwritable : o.encoding.charset = .iso2022Jp →
      ∀ ch ∈ e.name.toList ++ e.commentText.toList, Charset.Iso2022Jp.IsWritable ch) :
    decodeText text.name text.comment e'.flags e'.extra o.encoding =
      .ok { name := e.name, comment := e.commentText } := by
  obtain ⟨hname, hcommentText⟩ := h.decode_of_no_flag hflag hwritable
  have hnameFound : (unicodePath? e'.extra text.name).getD e.name = e.name := by
    rcases h.unicodePath?_cases hpath with hp | hp
    · rw [hp, Option.getD_none]
    · rw [hp, Option.getD_some]
  have hcommentFound : (if text.comment.isEmpty then none
      else unicodeComment? e'.extra text.comment).getD e.commentText = e.commentText := by
    split
    · exact Option.getD_none
    · rcases h.unicodeComment?_cases hcomment with hc | hc
      · rw [hc, Option.getD_none]
      · rw [hc, Option.getD_some]
  rw [decodeText_eq_ok e'.extra hflag hname hcommentText, hnameFound, hcommentFound]

end Entry.TextWritten

/-- What is written of the name and the comment of an entry reads back, for a reader that knows the
encoding of the archive, and under the flag for any. -/
theorem decodeText_encodeText [Record κ] {e e' : Entry κ} {o : NameOptions} {text : EncodedText}
    (hpath : ∀ u, Field.unicodePath u ∉ e.extra) (hcomment : ∀ u, Field.unicodeComment u ∉ e.extra)
    (hwritable : o.encoding.charset = .iso2022Jp →
      ∀ ch ∈ e.name.toList ++ e.commentText.toList, Charset.Iso2022Jp.IsWritable ch)
    (h : e.encodeText o = (.ok text, e')) :
    decodeText text.name text.comment e'.flags e'.extra o.encoding =
        .ok { name := e.name, comment := e.commentText } ∧
      (e'.flags.utf8Names = true → ∀ legacy,
        decodeText text.name text.comment e'.flags e'.extra legacy =
          .ok { name := e.name, comment := e.commentText }) := by
  have hwritten := Entry.textWritten_of_encodeText h
  refine ⟨?_, hwritten.decodeText_of_flag⟩
  cases hflag : e'.flags.utf8Names with
  | true => exact hwritten.decodeText_of_flag hflag o.encoding
  | false => exact hwritten.decodeText_of_no_flag hflag hpath hcomment hwritable

/-- An entry with a name that the charset does not hold, and with what looks like an escape in its
comment. -/
def sampleNamedEntry : Entry Empty :=
  { name := "Ωmega", comment? := some "50%U0041" }

/-- A single-byte charset, and a record with the UTF-8 form for what it does not hold. -/
def sampleNameOptions : NameOptions :=
  { encoding := { charset := .page .windows1252 }, unicodeRecords := .whenNeeded }

/-- The name is written with an escape and the comment with an escaped percent sign, and both read
back. -/
theorem decodeText_encodeText_sampleNamedEntry :
    ∃ text e', sampleNamedEntry.encodeText sampleNameOptions = (.ok text, e') ∧
      text.name = [0x25, 0x55, 0x30, 0x33, 0x41, 0x39, 0x6D, 0x65, 0x67, 0x61] ∧
      decodeText text.name text.comment e'.flags e'.extra sampleNameOptions.encoding =
        .ok { name := "Ωmega", comment := "50%U0041" } := by
  have hname : EncodedText.name <$> (sampleNamedEntry.encodeText sampleNameOptions).1 =
      .ok [0x25, 0x55, 0x30, 0x33, 0x41, 0x39, 0x6D, 0x65, 0x67, 0x61] := by decide +kernel
  obtain ⟨text, htext, hbytes⟩ := map_eq_ok_iff.1 hname
  have h : sampleNamedEntry.encodeText sampleNameOptions =
      (.ok text, (sampleNamedEntry.encodeText sampleNameOptions).2) := Prod.ext htext rfl
  have hcharset : sampleNameOptions.encoding.charset ≠ .iso2022Jp := nofun
  have hread := decodeText_encodeText (fun _ => List.not_mem_nil) (fun _ => List.not_mem_nil)
    (fun h' => absurd h' hcharset) h
  exact ⟨text, _, h, hbytes, hread.1⟩

end ZipArchive
