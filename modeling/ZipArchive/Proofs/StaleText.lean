import ZipArchive.Proofs.Extra.OrderedMap
import ZipArchive.Proofs.HeaderText

/-!
# Names and comments written again

Between two calls that write the text of an entry, the entry may get another name and another
comment, and the calls may have different options: `TextRun`. A record with the UTF-8 form of a text
stays on the entry when a later call adds none, so that each such record is the one of some call,
`TextRun.records`.

A reader takes a record for the present text if the checksum of its bytes is that of the present
ones. So the text of the last call reads back just if no record of an earlier call has that checksum
and another text, `TextRun.decodeText_eq_iff`. Two names may have the same bytes in two charsets;
then the reader gets the former one, `TextRun.decodeText_sampleCyrillic`.
-/

namespace ZipArchive

open Extra (FieldList Record UnicodeText)

variable {κ : Type}

/-! ### Runs -/

/-- A call that wrote the text of an entry. -/
structure TextCall (κ : Type) where
  /-- The entry as it was. -/
  entry : Entry κ
  /-- The bytes that were written. -/
  text : EncodedText

namespace TextCall

/-- The record that a call has for the name. -/
def path (call : TextCall κ) : UnicodeText :=
  .ofText call.entry.name call.text.name

/-- The record that a call has for the comment. -/
def comment (call : TextCall κ) : UnicodeText :=
  .ofText call.entry.commentText call.text.comment

end TextCall

variable [Record κ]

/-- Steps lead from the first entry to the second: a name or a comment is set, or text is written.
The calls that wrote text are listed, the last of them first. -/
inductive TextRun (start : Entry κ) : List (TextCall κ) → Entry κ → Prop
  /-- There was no step yet. -/
  | start : TextRun start [] start
  /-- The entry got a name. -/
  | rename {calls : List (TextCall κ)} {e : Entry κ} (h : TextRun start calls e) (name : String) :
      TextRun start calls { e with name }
  /-- The entry got a comment, or has none any more. -/
  | annotate {calls : List (TextCall κ)} {e : Entry κ} (h : TextRun start calls e)
      (comment? : Option String) : TextRun start calls { e with comment? }
  /-- Its text was written. -/
  | written {calls : List (TextCall κ)} {e e' : Entry κ} {o : NameOptions} {text : EncodedText}
      (h : TextRun start calls e) (hcall : e.encodeText o = (.ok text, e')) :
      TextRun start ({ entry := e, text } :: calls) e'
  /-- Its text could not be written. -/
  | failed {calls : List (TextCall κ)} {e e' : Entry κ} {o : NameOptions} {fault : Fault}
      (h : TextRun start calls e) (hcall : e.encodeText o = (.error fault, e')) :
      TextRun start calls e'

/-! ### The records of calls -/

/-- Every field is a record of one of the calls, and there is one for names and one for comments at
most. -/
structure TextRecords (calls : List (TextCall κ)) (extra : FieldList κ) : Prop where
  exists_call : ∀ f ∈ extra, ∃ call ∈ calls, f = .unicodePath call.path ∨
    f = .unicodeComment call.comment
  isOrderedMap : extra.IsOrderedMap

namespace Entry

/-- Writing the text of an entry keeps its extra fields an ordered map. -/
theorem isOrderedMap_of_encodeText {e e' : Entry κ} {o : NameOptions} {text : EncodedText}
    (h : e.encodeText o = (.ok text, e')) (hmap : e.extra.IsOrderedMap) :
    e'.extra.IsOrderedMap := by
  obtain ⟨-, -, rfl⟩ := of_encodeText_eq_ok h
  exact List.foldlRecOn _ _ hmap fun _ hfields f _ => hfields.add f

end Entry

namespace TextRun

variable {start e e' : Entry κ} {calls : List (TextCall κ)} {o : NameOptions} {text : EncodedText}

/-- All records of an entry are those of calls. -/
theorem records (hstart : start.extra = []) (h : TextRun start calls e) :
    TextRecords calls e.extra := by
  induction h with
  | start =>
    rw [hstart]
    exact ⟨fun f hf => absurd hf List.not_mem_nil, .nil⟩
  | rename _ name ih => exact ih
  | annotate _ comment? ih => exact ih
  | @written calls e e' o text _ hcall ih =>
    refine ⟨fun f hf => ?_, Entry.isOrderedMap_of_encodeText hcall ih.isOrderedMap⟩
    have hwritten := Entry.textWritten_of_encodeText hcall
    rcases hwritten.tagged.extra f hf with hold | hpath | hcomment
    · obtain ⟨call, hmem, hf⟩ := ih.exists_call f hold
      exact ⟨call, List.mem_cons_of_mem _ hmem, hf⟩
    · exact ⟨_, List.mem_cons_self .., .inl hpath⟩
    · exact ⟨_, List.mem_cons_self .., .inr hcomment⟩
  | failed _ hcall ih =>
    rw [Entry.eq_of_encodeText_eq_error hcall]
    exact ih

end TextRun

/-! ### What a reader finds -/

/-- Where one element gives a value at most, that one decides. -/
theorem findSome?_eq_of_unique {α β : Type} {f : α → Option β} {x : α} {xs : List α} (hx : x ∈ xs)
    (h : ∀ y ∈ xs, y = x ∨ f y = none) : xs.findSome? f = f x := by
  cases hfound : xs.findSome? f with
  | none => exact (List.findSome?_eq_none_iff.1 hfound x hx).symm
  | some b =>
    obtain ⟨y, hy, hb⟩ := List.exists_of_findSome?_eq_some hfound
    rcases h y hy with rfl | hnone
    · exact hb.symm
    · cases hnone.symm.trans hb

omit [Record κ] in
/-- A reader finds the text of the last call unless the record of an earlier one with the checksum
of its bytes has another. This holds of names and of comments: `textOf` and `rawOf` are the text and
the bytes of a call, `record` is the field it has for them, and `find` is what a reader makes of a
field for the bytes of the last call. -/
theorem getD_findSome?_eq_iff (textOf : TextCall κ → String) (rawOf : TextCall κ → Bytes)
    (record : TextCall κ → Extra.Field κ) {find : Extra.Field κ → Option String}
    {last : TextCall κ} {calls : List (TextCall κ)} {extra : FieldList κ}
    (hrecord : ∀ call, find (record call) =
      if crc32 (rawOf last) = crc32 (rawOf call) then some (textOf call) else none)
    (hcall : ∀ f ∈ extra, find f = none ∨ ∃ call ∈ last :: calls, f = record call)
    (hunique : ∀ call, record call ∈ extra → ∀ f ∈ extra, f = record call ∨ find f = none) :
    (extra.findSome? find).getD (textOf last) = textOf last ↔
      ∀ earlier ∈ calls, record earlier ∈ extra →
        crc32 (rawOf last) = crc32 (rawOf earlier) → textOf earlier = textOf last := by
  constructor
  · intro hfound earlier _ hmem hcrc
    rw [findSome?_eq_of_unique hmem (hunique earlier hmem), hrecord, if_pos hcrc] at hfound
    exact hfound
  · intro hsame
    have hcases : extra.findSome? find = none ∨ extra.findSome? find = some (textOf last) := by
      refine findSome?_cases fun f hf => ?_
      rcases hcall f hf with hnone | ⟨call, hmem, rfl⟩
      · exact .inl hnone
      · rw [hrecord]
        split
        case isTrue hcrc =>
          rcases List.mem_cons.1 hmem with rfl | hearlier
          · exact .inr rfl
          · exact .inr (congrArg some (hsame call hearlier hf hcrc))
        case isFalse => exact .inl rfl
    rcases hcases with hnone | hsome
    · rw [hnone, Option.getD_none]
    · rw [hsome, Option.getD_some]

namespace TextRecords

variable {last : TextCall κ} {calls : List (TextCall κ)} {extra : FieldList κ}

private theorem getD_unicodePath?_eq_iff (h : TextRecords (last :: calls) extra) :
    (unicodePath? extra last.text.name).getD last.entry.name = last.entry.name ↔
      ∀ earlier ∈ calls, .unicodePath earlier.path ∈ extra →
        crc32 last.text.name = crc32 earlier.text.name → earlier.entry.name = last.entry.name := by
  refine getD_findSome?_eq_iff (fun call => call.entry.name) (fun call => call.text.name)
    (fun call => .unicodePath call.path) (fun call => UnicodeText.textFor?_ofText_eq ..) ?_ ?_
  · intro f hf
    obtain ⟨call, hcall, rfl | rfl⟩ := h.exists_call f hf
    · exact .inr ⟨call, hcall, rfl⟩
    · exact .inl rfl
  · intro call hcall f hf
    obtain ⟨other, -, rfl | rfl⟩ := h.exists_call f hf
    · exact .inl (h.isOrderedMap.eq_of_id_eq hf hcall rfl rfl rfl)
    · exact .inr rfl

private theorem getD_unicodeComment?_eq_iff (h : TextRecords (last :: calls) extra) :
    (unicodeComment? extra last.text.comment).getD last.entry.commentText =
        last.entry.commentText ↔
      ∀ earlier ∈ calls, .unicodeComment earlier.comment ∈ extra →
        crc32 last.text.comment = crc32 earlier.text.comment →
        earlier.entry.commentText = last.entry.commentText := by
  refine getD_findSome?_eq_iff (fun call => call.entry.commentText)
    (fun call => call.text.comment) (fun call => .unicodeComment call.comment)
    (fun call => UnicodeText.textFor?_ofText_eq ..) ?_ ?_
  · intro f hf
    obtain ⟨call, hcall, rfl | rfl⟩ := h.exists_call f hf
    · exact .inl rfl
    · exact .inr ⟨call, hcall, rfl⟩
  · intro call hcall f hf
    obtain ⟨other, -, rfl | rfl⟩ := h.exists_call f hf
    · exact .inr rfl
    · exact .inl (h.isOrderedMap.eq_of_id_eq hf hcall rfl rfl rfl)

end TextRecords

namespace TextRun

variable {start e e' : Entry κ} {calls : List (TextCall κ)} {o : NameOptions} {text : EncodedText}

/-- After any run from an entry without extra fields, the name and the comment that a call wrote
read back if and only if the flag tells the reader that they are UTF-8, or no record of an earlier
call that is still there has the checksum of the present bytes and another text. For an empty
comment no record is looked at. -/
theorem decodeText_eq_iff (hstart : start.extra = []) (h : TextRun start calls e)
    (hcall : e.encodeText o = (.ok text, e'))
    (hwritable : o.encoding.charset = .iso2022Jp →
      ∀ ch ∈ e.name.toList ++ e.commentText.toList, Charset.Iso2022Jp.IsWritable ch) :
    decodeText text.name text.comment e'.flags e'.extra o.encoding =
        .ok { name := e'.name, comment := e'.commentText } ↔
      e'.flags.utf8Names = true ∨
        (∀ earlier ∈ calls, .unicodePath earlier.path ∈ e'.extra →
          crc32 text.name = crc32 earlier.text.name → earlier.entry.name = e'.name) ∧
        (text.comment ≠ [] → ∀ earlier ∈ calls, .unicodeComment earlier.comment ∈ e'.extra →
          crc32 text.comment = crc32 earlier.text.comment →
          earlier.entry.commentText = e'.commentText) := by
  have hwritten := Entry.textWritten_of_encodeText hcall
  have hname : e'.name = e.name := hwritten.tagged.name_eq
  have hcomment : e'.commentText = e.commentText :=
    congrArg (Option.getD · "") hwritten.tagged.comment_eq
  have hrecords := (h.written hcall).records hstart
  rw [hname, hcomment]
  cases hflag : e'.flags.utf8Names with
  | true => exact iff_of_true (hwritten.decodeText_of_flag hflag o.encoding) (.inl rfl)
  | false =>
    obtain ⟨hnameRead, hcommentRead⟩ := hwritten.decode_of_no_flag hflag hwritable
    have hpath := hrecords.getD_unicodePath?_eq_iff
    have hcommentFound : (if text.comment.isEmpty then none
        else unicodeComment? e'.extra text.comment).getD e.commentText = e.commentText ↔
        (text.comment ≠ [] → ∀ earlier ∈ calls, .unicodeComment earlier.comment ∈ e'.extra →
          crc32 text.comment = crc32 earlier.text.comment →
          earlier.entry.commentText = e.commentText) := by
      cases hempty : text.comment.isEmpty with
      | true => exact iff_of_true Option.getD_none (absurd (List.isEmpty_iff.1 hempty))
      | false =>
        have hne : text.comment ≠ [] := List.isEmpty_eq_false_iff.1 hempty
        have hfound := hrecords.getD_unicodeComment?_eq_iff
        exact ⟨fun h _ => hfound.1 h, fun h => hfound.2 (h hne)⟩
    rw [decodeText_eq_ok e'.extra hflag hnameRead hcommentRead, Except.ok.injEq,
      DecodedText.mk.injEq, hcommentFound]
    simp only [Bool.false_eq_true, false_or]
    exact and_congr_left fun _ => hpath

/-- A charset of Western Europe, with a record for every name. -/
def sampleLatin : NameOptions :=
  { encoding := { charset := .page .windows1252, policy := .strict }, unicodeRecords := .always }

/-- A Cyrillic charset, without records. -/
def sampleCyrillic : NameOptions :=
  { encoding := { charset := .page .windows1251, policy := .strict } }

/-- An entry whose name was written in the first charset, and which got another name then. -/
def sampleRenamed (name : String) : Entry Empty :=
  { ((Entry.file "é" : Entry Empty).encodeText sampleLatin).2 with name }

/-- A call that is known by the bytes that it writes. -/
theorem exists_encodeText_eq {e : Entry Empty} {o : NameOptions} {name comment : Bytes}
    (h : (fun text => (text.name, text.comment)) <$> (e.encodeText o).1 = .ok (name, comment)) :
    ∃ text, e.encodeText o = (.ok text, (e.encodeText o).2) ∧ text.name = name ∧
      text.comment = comment := by
  obtain ⟨text, htext, hbytes⟩ := map_eq_ok_iff.1 h
  exact ⟨text, Prod.ext htext rfl, congrArg Prod.fst hbytes, congrArg Prod.snd hbytes⟩

private theorem exists_textRun_sampleRenamed (name : String) :
    ∃ text : EncodedText, text.name = [0xE9] ∧
      TextRun (Entry.file "é" : Entry Empty) [{ entry := .file "é", text }]
        (sampleRenamed name) := by
  have hbytes : (fun text => (text.name, text.comment)) <$>
      ((Entry.file "é" : Entry Empty).encodeText sampleLatin).1 = .ok ([0xE9], []) := by
    decide +kernel
  obtain ⟨text, hcall, hname, -⟩ := exists_encodeText_eq hbytes
  exact ⟨text, hname, (TextRun.start.written hcall).rename name⟩

/-- The bytes of the new name have another checksum, so that the record that is still there is not
taken for it. -/
theorem decodeText_eq_iff_sampleRenamed :
    ∃ text e', (sampleRenamed "ж").encodeText sampleCyrillic = (.ok text, e') ∧
      .unicodePath (.ofText "é" [0xE9]) ∈ e'.extra ∧
      decodeText text.name text.comment e'.flags e'.extra sampleCyrillic.encoding =
        .ok { name := e'.name, comment := e'.commentText } := by
  have hbytes : (fun text => (text.name, text.comment)) <$>
      ((sampleRenamed "ж").encodeText sampleCyrillic).1 = .ok ([0xE6], []) := by decide +kernel
  obtain ⟨text, hcall, hname, hcomment⟩ := exists_encodeText_eq hbytes
  obtain ⟨former, hformer, hrun⟩ := exists_textRun_sampleRenamed "ж"
  have hrecord : .unicodePath (.ofText "é" [0xE9]) ∈
      ((sampleRenamed "ж").encodeText sampleCyrillic).2.extra := by decide +kernel
  have hcharset : sampleCyrillic.encoding.charset ≠ .iso2022Jp := nofun
  have hread := decodeText_eq_iff rfl hrun hcall fun h => absurd h hcharset
  refine ⟨text, _, hcall, hrecord, hread.2 (.inr ⟨?_, fun hne => absurd hcomment hne⟩)⟩
  intro earlier hearlier _ hcrc
  obtain rfl := List.mem_singleton.1 hearlier
  rw [hname, hformer] at hcrc
  exact absurd hcrc (by decide +kernel)

/-- The bytes of the new name are those of the former one, and this is what the reader finds. -/
theorem decodeText_sampleCyrillic :
    ∃ calls text e', TextRun (Entry.file "é" : Entry Empty) calls (sampleRenamed "й") ∧
      (sampleRenamed "й").encodeText sampleCyrillic = (.ok text, e') ∧ e'.name = "й" ∧
      decodeText text.name text.comment e'.flags e'.extra sampleCyrillic.encoding =
        .ok { name := "é", comment := "" } := by
  have hbytes : (fun text => (text.name, text.comment)) <$>
      ((sampleRenamed "й").encodeText sampleCyrillic).1 = .ok ([0xE9], []) := by decide +kernel
  obtain ⟨text, hcall, hname, hcomment⟩ := exists_encodeText_eq hbytes
  obtain ⟨former, -, hrun⟩ := exists_textRun_sampleRenamed "й"
  have hread : decodeText [0xE9] [] ((sampleRenamed "й").encodeText sampleCyrillic).2.flags
      ((sampleRenamed "й").encodeText sampleCyrillic).2.extra sampleCyrillic.encoding =
        .ok { name := "é", comment := "" } := by decide +kernel
  refine ⟨_, text, _, hrun, hcall, ?_, ?_⟩
  · decide +kernel
  · rw [hname, hcomment]
    exact hread

end TextRun

end ZipArchive
