import ZipArchive.Proofs.Archive.Blocks
import ZipArchive.Proofs.CrashingText

/-!
# Writing that breaks off

Whatever goes wrong with an entry does so at one of a few stages, and each stage leaves its own part
of the entry in the sink: `BreaksOff`. The first entry that fails ends the writing. What is left
then are the complete entries before it and that part of it, whatever comes behind it: `Fails`. If
no entry fails, a central header may still be too long to be written, and then nothing is written of
the central directory. A sink in memory is left so in these cases, and they are the only ones in
which writing fails: `writeArchive_fails_iff`. Texts that stop the program are left out of this.
Nothing is returned for them, and as entries may be prepared side by side, it is open how much of
the others is written by then.
-/

namespace ZipArchive

open Extra (Record Zip64)

/-! ### Central headers that cannot be written -/

/-- A part of the header is too long, and none that is looked at before. -/
inductive CentralHeader.Refused (h : CentralHeader) : Fault → Prop
  | extra (hlong : 65535 < h.allExtra.length) :
      Refused h (.invalidHeader s!"central extra field of {h.allExtra.length} bytes exceeds 65535")
  | name (hextra : h.allExtra.length ≤ 65535) (hlong : 65535 < h.name.length) :
      Refused h (.invalidHeader s!"entry name of {h.name.length} bytes exceeds 65535")
  | comment (hextra : h.allExtra.length ≤ 65535) (hname : h.name.length ≤ 65535)
      (hlong : 65535 < h.comment.length) :
      Refused h (.invalidHeader s!"entry comment of {h.comment.length} bytes exceeds 65535")

private theorem CentralHeader.toBytes_eq_error_iff {h : CentralHeader} {e : Fault} :
    h.toBytes = .error e ↔ h.Refused e := by
  simp only [toBytes, bind_eq_error_iff, checkLength_eq_error_iff]
  constructor
  · rintro (⟨hlong, rfl⟩ | ⟨⟨⟩, hextra, ⟨hlong, rfl⟩ | ⟨⟨⟩, hname, ⟨hlong, rfl⟩ | ⟨-, -, h⟩⟩⟩)
    · exact .extra hlong
    · exact .name (checkLength_eq_ok_iff.1 hextra) hlong
    · exact .comment (checkLength_eq_ok_iff.1 hextra) (checkLength_eq_ok_iff.1 hname) hlong
    · cases h
  · intro h
    cases h with
    | extra hlong => exact .inl ⟨hlong, rfl⟩
    | name hextra hlong =>
      exact .inr ⟨⟨⟩, checkLength_eq_ok_iff.2 hextra, .inl ⟨hlong, rfl⟩⟩
    | comment hextra hname hlong =>
      exact .inr ⟨⟨⟩, checkLength_eq_ok_iff.2 hextra, .inr ⟨⟨⟩, checkLength_eq_ok_iff.2 hname,
        .inl ⟨hlong, rfl⟩⟩⟩

/-- A central directory cannot be written because of its first header that cannot. -/
theorem centralDirectory_eq_error_iff {headers : List CentralHeader} {e : Fault} :
    centralDirectory headers = .error e ↔ ∃ before h after, headers = before ++ h :: after ∧
      (∀ g ∈ before, ∃ bs, g.toBytes = .ok bs) ∧ h.Refused e := by
  rw [centralDirectory, map_eq_error_iff, mapM_eq_error_iff]
  simp only [CentralHeader.toBytes_eq_error_iff]

variable {κ σ τ : Type} [Record κ]

/-! ### Entries that fail -/

/-- The extra fields of the local header of a prepared entry. -/
def Prepared.localExtra (p : Prepared κ) (mode : Zip64Mode) : Except Fault Bytes :=
  (p.entry.reserveSizes (mode.reserves p.entry)).extraData .localHeader

/-- The local header of a prepared entry before checksum and sizes are known. -/
def Prepared.blank (p : Prepared κ) (mode : Zip64Mode) : Except Fault LocalHeader :=
  (p.entry.reserveSizes (mode.reserves p.entry)).localHeader p.text.name (mode.reserves p.entry)

/-- The local header of a prepared entry with the checksum and the sizes of its data. -/
def Prepared.filled (p : Prepared κ) (mode : Zip64Mode) (d : Digest) : Except Fault LocalHeader :=
  p.entry.filledHeader p.text.name (mode.reserves p.entry) d

/-- The sizes fit the local header of a prepared entry, whether eight bytes are reserved for each of
them or four have to do. -/
def Prepared.Fits (p : Prepared κ) (mode : Zip64Mode) (d : Digest) : Prop :=
  mode.reserves p.entry = false → d.size < marker32 ∧ d.compressedSize < marker32

/-- What a prepared entry fails with, and the bytes that are left of it. -/
inductive Prepared.BreaksOff (p : Prepared κ) (mode : Zip64Mode) : Fault → Bytes → Prop
  /-- A local extra field cannot be written. -/
  | localExtra {e : Fault} (h : p.localExtra mode = .error e) : BreaksOff p mode e []
  /-- The name is too long. -/
  | name {extra : Bytes} (hextra : p.localExtra mode = .ok extra)
      (hlong : 65535 < p.text.name.length) :
      BreaksOff p mode
        (.invalidHeader s!"entry name of {p.text.name.length} bytes exceeds 65535") []
  /-- The local extra fields are too long together. -/
  | localField {extra : Bytes} (hextra : p.localExtra mode = .ok extra)
      (hname : p.text.name.length ≤ 65535) (hlong : 65535 < extra.length) :
      BreaksOff p mode
        (.invalidHeader s!"local extra field of {extra.length} bytes exceeds 65535") []
  /-- The data breaks off. -/
  | data {blank : LocalHeader} {e : Fault} (hblank : p.blank mode = .ok blank)
      (h : p.data.ending = .error e) :
      BreaksOff p mode e (blank.toBytes ++ p.data.pieces.flatten)
  /-- The data is too large for its local header. -/
  | sizes {blank : LocalHeader} {d : Digest} (hblank : p.blank mode = .ok blank)
      (hending : p.data.ending = .ok d) (hlarge : ¬p.Fits mode d) :
      BreaksOff p mode
        (.invalidHeader
          (s!"entry {p.entry.name} is {d.size} bytes but its local header has no Zip64 sizes; " ++
            "set a size hint or use Zip64Mode::Always"))
        (blank.toBytes ++ p.data.pieces.flatten)
  /-- A central extra field cannot be written. -/
  | centralExtra {filled : LocalHeader} {d : Digest} {e : Fault}
      (hending : p.data.ending = .ok d) (hfits : p.Fits mode d)
      (hfilled : p.filled mode d = .ok filled)
      (h : ((p.entry.reserveSizes (mode.reserves p.entry)).removeExtra
        Zip64.recordId).extraData .central = .error e) :
      BreaksOff p mode e (filled.toBytes ++ p.data.pieces.flatten)

/-- What a submission fails with, and the bytes that are left of its entry. -/
inductive BreaksOff (o : WriterOptions σ) : Except Fault (Submission κ) → Fault → Bytes → Prop
  /-- The supplier fails. -/
  | supplier (e : Fault) : BreaksOff o (.error e) e []
  /-- The name or the comment cannot be encoded, and the caller is told. -/
  | text {s : Submission κ} {e : Fault}
      (h : ((s.entry.forMethod o.codec.method).encodeText o.names).1 = .error e)
      (hreturned : e ≠ .crash) : BreaksOff o (.ok s) e []
  /-- The entry fails when it is written. -/
  | entry {s : Submission κ} {p : Prepared κ} {e : Fault} {left : Bytes}
      (hprepare : o.prepare s = .ok p) (h : p.BreaksOff o.zip64 e left) :
      BreaksOff o (.ok s) e left

private theorem Entry.centralHeader_eq_error_iff {e : Entry κ} {text : EncodedText}
    {reserved : Bool} {offset : Nat} {d : Digest} {f : Fault} :
    e.centralHeader text reserved offset d = .error f ↔
      (e.removeExtra Zip64.recordId).extraData .central = .error f := by
  rw [centralHeader, bind_eq_error_iff]
  refine or_iff_left ?_
  rintro ⟨extra, -, h⟩
  cases h

namespace Prepared

variable {p : Prepared κ} {mode : Zip64Mode} {start : Nat}

/-- Before anything of an entry is written, three things may go wrong. -/
theorem breaksOff_of_blank {e : Fault} (h : p.blank mode = .error e) : p.BreaksOff mode e [] := by
  rw [blank, Entry.localHeader] at h
  rcases bind_eq_error_iff.1 h with hextra | ⟨extra, hextra, h⟩
  · exact .localExtra hextra
  rcases bind_eq_error_iff.1 h with hname | ⟨⟨⟩, hname, h⟩
  · obtain ⟨hlong, rfl⟩ := checkLength_eq_error_iff.1 hname
    exact .name hextra hlong
  rcases bind_eq_error_iff.1 h with hfield | ⟨⟨⟩, -, h⟩
  · obtain ⟨hlong, rfl⟩ := checkLength_eq_error_iff.1 hfield
    exact .localField hextra (checkLength_eq_ok_iff.1 hname) hlong
  · cases h

/-- A local header that can be written can be filled. -/
theorem exists_filled {blank : LocalHeader} (hblank : p.blank mode = .ok blank) (d : Digest) :
    ∃ filled, p.filled mode d = .ok filled := by
  rw [Prepared.blank] at hblank
  rw [filled]
  cases hreserved : mode.reserves p.entry with
  | false =>
    rw [hreserved] at hblank
    exact ⟨_, Entry.filledHeader_of_not_reserved d hblank⟩
  | true =>
    rw [hreserved] at hblank
    obtain ⟨_, _, -, -, hfilled⟩ := Entry.exists_filledHeader_of_reserved d hblank
    exact ⟨_, hfilled⟩

/-- The patches of an entry fail only if its data is too large for its local header. -/
theorem patches_eq_error_iff {blank : LocalHeader} (hblank : p.blank mode = .ok blank) {d : Digest}
    {e : Fault} :
    (p.entry.reserveSizes (mode.reserves p.entry)).patches p.text.name (mode.reserves p.entry)
        start d = .error e ↔
      ¬p.Fits mode d ∧ e = .invalidHeader
        (s!"entry {p.entry.name} is {d.size} bytes but its local header has no Zip64 sizes; " ++
          "set a size hint or use Zip64Mode::Always") := by
  rw [Prepared.blank] at hblank
  rw [Fits]
  cases hreserved : mode.reserves p.entry with
  | false =>
    simp only [Entry.patches, Bool.false_eq_true, if_false, true_implies]
    split
    case isTrue hlarge =>
      have hfits : ¬(d.size < marker32 ∧ d.compressedSize < marker32) := by omega
      rw [Except.error.injEq, and_iff_right hfits, eq_comm]
      rfl
    case isFalse hsmall =>
      have hfits : d.size < marker32 ∧ d.compressedSize < marker32 := by omega
      simp [hfits]
  | true =>
    rw [hreserved] at hblank
    obtain ⟨_, _, hstands, -, -⟩ := Entry.exists_filledHeader_of_reserved d hblank
    simp [Entry.patches, hstands.payloadOffset?_eq]

/-! ### Layouts of entries that fail -/

private theorem layout_of_blank {e : Fault} (h : p.blank mode = .error e) :
    p.layout mode start = ([], .error e) := by
  rw [blank] at h
  simp only [layout, h]

private theorem layout_of_ending {blank : LocalHeader} {e : Fault}
    (hblank : p.blank mode = .ok blank) (h : p.data.ending = .error e) :
    p.layout mode start = (blank.toBytes ++ p.data.pieces.flatten, .error e) := by
  rw [Prepared.blank] at hblank
  simp only [layout, hblank, h]

private theorem layout_of_not_fits {blank : LocalHeader} {d : Digest}
    (hblank : p.blank mode = .ok blank) (hending : p.data.ending = .ok d) (h : ¬p.Fits mode d) :
    p.layout mode start = (blank.toBytes ++ p.data.pieces.flatten, .error (.invalidHeader
      (s!"entry {p.entry.name} is {d.size} bytes but its local header has no Zip64 sizes; " ++
        "set a size hint or use Zip64Mode::Always"))) := by
  have hpatches := (@patches_eq_error_iff _ _ _ _ start _ hblank _ _).2 ⟨h, rfl⟩
  rw [Prepared.blank] at hblank
  simp only [layout, hblank, hending, hpatches]

/-- Data that fits leaves a filled header, whether or not a central header comes of it. -/
theorem layout_of_fits {filled : LocalHeader} {d : Digest} (hending : p.data.ending = .ok d)
    (hfits : p.Fits mode d) (hfilled : p.filled mode d = .ok filled) :
    p.layout mode start = (filled.toBytes ++ p.data.pieces.flatten,
      (p.entry.reserveSizes (mode.reserves p.entry)).centralHeader p.text (mode.reserves p.entry)
        start d) := by
  rw [Prepared.filled] at hfilled
  obtain ⟨blank, hblank⟩ := Entry.exists_localHeader_of_filledHeader hfilled
  cases hpatches : (p.entry.reserveSizes (mode.reserves p.entry)).patches p.text.name
    (mode.reserves p.entry) start d with
  | error e => exact absurd hfits ((patches_eq_error_iff hblank).1 hpatches).1
  | ok ps => simp only [layout, hblank, hending, hpatches, hfilled]

/-- An entry that fails is laid out as it breaks off, wherever it starts. -/
theorem layout_eq_error_iff {e : Fault} {left : Bytes} :
    p.layout mode start = (left, .error e) ↔ p.BreaksOff mode e left := by
  constructor
  · intro h
    cases hblank : p.blank mode with
    | error e' =>
      obtain ⟨rfl, he⟩ := Prod.mk.inj ((layout_of_blank hblank).symm.trans h)
      obtain rfl := Except.error.inj he
      exact breaksOff_of_blank hblank
    | ok blank =>
      cases hending : p.data.ending with
      | error e' =>
        obtain ⟨rfl, he⟩ := Prod.mk.inj ((layout_of_ending hblank hending).symm.trans h)
        obtain rfl := Except.error.inj he
        exact .data hblank hending
      | ok d =>
        by_cases hfits : p.Fits mode d
        · obtain ⟨filled, hfilled⟩ := exists_filled hblank d
          obtain ⟨rfl, he⟩ := Prod.mk.inj ((layout_of_fits hending hfits hfilled).symm.trans h)
          exact .centralExtra hending hfits hfilled (Entry.centralHeader_eq_error_iff.1 he)
        · obtain ⟨rfl, he⟩ := Prod.mk.inj ((layout_of_not_fits hblank hending hfits).symm.trans h)
          obtain rfl := Except.error.inj he
          exact .sizes hblank hending hfits
  · intro h
    cases h with
    | localExtra h => exact layout_of_blank (bind_eq_error_iff.2 (.inl h))
    | name hextra hlong =>
      exact layout_of_blank (bind_eq_error_iff.2 (.inr ⟨_, hextra,
        bind_eq_error_iff.2 (.inl (checkLength_eq_error_iff.2 ⟨hlong, rfl⟩))⟩))
    | localField hextra hname hlong =>
      exact layout_of_blank (bind_eq_error_iff.2 (.inr ⟨_, hextra,
        bind_eq_error_iff.2 (.inr ⟨(), checkLength_eq_ok_iff.2 hname,
          bind_eq_error_iff.2 (.inl (checkLength_eq_error_iff.2 ⟨hlong, rfl⟩))⟩)⟩))
    | data hblank h => exact layout_of_ending hblank h
    | sizes hblank hending hlarge => exact layout_of_not_fits hblank hending hlarge
    | centralExtra hending hfits hfilled h =>
      rw [layout_of_fits hending hfits hfilled, Entry.centralHeader_eq_error_iff.2 h]

/-- The layout of an entry that comes to a block. -/
theorem layout_of_isBlock {b : Block} (h : p.IsBlock mode start b) :
    p.layout mode start = (b.bytes, .ok b.central) := by
  rw [layout_of_fits h.ending_eq h.fits h.header_eq, h.central_eq, ← h.data_eq]
  rfl

end Prepared

/-! ### Submissions -/

private theorem WriterOptions.prepare_eq_error_iff {o : WriterOptions σ} {s : Submission κ}
    {e : Fault} : o.prepare s = .error e ↔
      ((s.entry.forMethod o.codec.method).encodeText o.names).1 = .error e := by
  rw [prepare]
  rcases (s.entry.forMethod o.codec.method).encodeText o.names with ⟨e' | text, entry⟩
  · simp
  · simp

private theorem BreaksOff.layoutSubmission_eq {o : WriterOptions σ}
    {s : Except Fault (Submission κ)} {e : Fault} {left : Bytes} (h : BreaksOff o s e left)
    (start : Nat) :
    layoutSubmission o start s = (left, .error e) := by
  cases h with
  | supplier e => rfl
  | text h _ => simp only [layoutSubmission, Except.bind, WriterOptions.prepare_eq_error_iff.2 h]
  | entry hprepare h =>
    simp only [layoutSubmission, Except.bind, hprepare]
    exact Prepared.layout_eq_error_iff.2 h

/-- Blocks are laid out before whatever follows them. -/
theorem Blocks.layoutEntries_append {o : WriterOptions σ} {start : Nat}
    {front : List (Submission κ)} {blocks : List Block} (h : Blocks o start front blocks)
    {more : List (Except Fault (Submission κ))} {out : Bytes}
    {result : Except Fault (List CentralHeader)}
    (hmore : layoutEntries o (start + (blocks.flatMap Block.bytes).length) more = (out, result)) :
    layoutEntries o start (front.map .ok ++ more) =
      (blocks.flatMap Block.bytes ++ out, (blocks.map Block.central ++ ·) <$> result) := by
  induction h with
  | nil start =>
    refine hmore.trans ?_
    cases result with
    | error e => rfl
    | ok headers => rfl
  | @cons start s p b ss bs hprepare hblock _ ih =>
    have hlayout : layoutSubmission o start (.ok s) = (b.bytes, .ok b.central) := by
      simp only [layoutSubmission, Except.bind, hprepare]
      exact Prepared.layout_of_isBlock hblock
    rw [List.flatMap_cons, List.length_append, ← Nat.add_assoc] at hmore
    simp only [List.map_cons, List.cons_append, layoutEntries, hlayout, ih hmore,
      List.flatMap_cons, List.append_assoc]
    cases result with
    | error e => rfl
    | ok headers => rfl

/-- What writing submissions from `start` on fails with, and the bytes that are left. -/
inductive Fails (o : WriterOptions σ) (start : Nat) (ss : List (Except Fault (Submission κ))) :
    Fault → Bytes → Prop
  /-- A submission fails, and none before it. What comes behind it does not matter. -/
  | entry {front : List (Submission κ)} {blocks : List Block} {bad : Except Fault (Submission κ)}
      {later : List (Except Fault (Submission κ))} {e : Fault} {left : Bytes}
      (hss : ss = front.map .ok ++ bad :: later) (hfront : Blocks o start front blocks)
      (hbad : BreaksOff o bad e left) : Fails o start ss e (blocks.flatMap Block.bytes ++ left)
  /-- No submission fails, but a central header cannot be written, and none before it. -/
  | directory {submissions : List (Submission κ)} {blocks : List Block}
      {before : List CentralHeader} {h : CentralHeader} {after : List CentralHeader} {e : Fault}
      (hss : ss = submissions.map .ok) (hblocks : Blocks o start submissions blocks)
      (hheaders : blocks.map Block.central = before ++ h :: after)
      (hbefore : ∀ g ∈ before, ∃ bs, g.toBytes = .ok bs) (hrefused : h.Refused e) :
      Fails o start ss e (blocks.flatMap Block.bytes)

/-- The layout of an archive. -/
def layoutArchive (o : WriterOptions σ) (start : Nat) (ss : List (Except Fault (Submission κ))) :
    Layout Summary :=
  match layoutEntries o start ss with
  | (out, .error e) => (out, .error e)
  | (out, .ok headers) =>
    let rest := layoutDirectory o.zip64 headers (start + out.length)
    (out ++ rest.1, rest.2)

private theorem Fails.layoutArchive_eq {o : WriterOptions σ} {start : Nat}
    {ss : List (Except Fault (Submission κ))} {e : Fault} {left : Bytes}
    (h : Fails o start ss e left) : layoutArchive o start ss = (left, .error e) := by
  rw [layoutArchive]
  cases h with
  | @entry front blocks bad later e left hss hfront hbad =>
    have hlater : layoutEntries o (start + (blocks.flatMap Block.bytes).length) (bad :: later) =
        (left, .error e) := by
      rw [layoutEntries, hbad.layoutSubmission_eq]
    rw [hss, hfront.layoutEntries_append hlater]
    rfl
  | @directory submissions blocks before h after e hss hblocks hheaders hbefore hrefused =>
    have hall : layoutEntries o start ss =
        (blocks.flatMap Block.bytes, .ok (blocks.map Block.central)) := by
      have hnil : layoutEntries o (start + (blocks.flatMap Block.bytes).length)
          ([] : List (Except Fault (Submission κ))) = ([], .ok []) := rfl
      have happend := hblocks.layoutEntries_append hnil
      rw [List.append_nil, List.append_nil, ← hss] at happend
      rw [happend]
      exact congrArg (fun headers => (_, Except.ok headers)) (List.append_nil _)
    have hdirectory :=
      centralDirectory_eq_error_iff.2 ⟨before, h, after, hheaders, hbefore, hrefused⟩
    rw [hall]
    simp only [layoutDirectory, hdirectory, List.append_nil]

/-- On a lawful sink the entries and the central directory of an archive are written as they are
laid out. -/
theorem writeEntries_bind_writeDirectory_turns [Sink τ] [LawfulSink τ] (o : WriterOptions σ)
    (ss : List (Except Fault (Submission κ))) (start : Nat) :
    (writeEntries o ss >>= writeDirectory o.zip64 : Writing τ Summary).Turns start []
      (layoutArchive o start ss).1 (layoutArchive o start ss).2 := by
  have hturns := writeEntries_turns (τ := τ) o ss start
  rw [layoutArchive]
  rcases hentries : layoutEntries o start ss with ⟨out, e | headers⟩
  · rw [hentries] at hturns
    exact .bind_error hturns
  · rw [hentries] at hturns
    exact .bind hturns (writeDirectory_turns o.zip64 headers (start + out.length)).shift

/-- On a lawful sink an archive is written as it is laid out, and flushed if it is complete. -/
theorem exists_outcome_of_writeArchive [Sink τ] [LawfulSink τ] (o : WriterOptions σ)
    (queue : List (Source κ)) {s : τ} {base : Nat} {bs : Bytes} (hs : LawfulSink.Holds s base bs) :
    ∃ t, LawfulSink.Holds t base
        (bs ++ (layoutArchive o (base + bs.length) (queue.flatMap Source.submissions)).1) ∧
      (writeArchive o queue).outcome s =
        match (layoutArchive o (base + bs.length) (queue.flatMap Source.submissions)).2 with
        | .error e => (.error e, t)
        | .ok summary => ((fun _ => summary) <$> (Sink.flush t).1, (Sink.flush t).2) := by
  obtain ⟨t, ht, htholds⟩ := (writeEntries_bind_writeDirectory_turns o
    (queue.flatMap Source.submissions) (base + bs.length)).run hs
  refine ⟨t, htholds, ?_⟩
  have hsteps : (writeArchive o queue : Writing τ Summary) =
      (writeEntries o (queue.flatMap Source.submissions) >>= writeDirectory o.zip64) >>=
        fun summary => Writing.flush >>= fun _ => pure summary := by
    rw [writeArchive, bind_assoc]
  rw [hsteps]
  cases hresult : (layoutArchive o (base + bs.length) (queue.flatMap Source.submissions)).2 with
  | error e =>
    rw [hresult] at ht
    exact Writing.outcome_bind_error ht
  | ok summary =>
    rw [hresult] at ht
    rw [Writing.outcome_bind_ok ht]
    rcases hflush : Sink.flush t with ⟨e | ⟨⟩, u⟩
    · exact Writing.outcome_bind_error hflush
    · exact Writing.outcome_bind_ok hflush

/-- On a sink in memory an archive is written as it is laid out. -/
theorem exists_outcome_of_layoutArchive (o : WriterOptions σ) (queue : List (Source κ))
    (s : MemorySink) :
    ∃ t, (writeArchive o queue).outcome s =
        ((layoutArchive o s.bytes.length (queue.flatMap Source.submissions)).2, t) ∧
      t.bytes = s.bytes ++
        (layoutArchive o s.bytes.length (queue.flatMap Source.submissions)).1 := by
  have hs : LawfulSink.Holds s 0 s.bytes := s.holds_bytes
  obtain ⟨t, htholds, ht⟩ := exists_outcome_of_writeArchive o queue hs
  rw [Nat.zero_add] at htholds ht
  refine ⟨t, ?_, MemorySink.Holds.bytes_eq htholds⟩
  rw [ht]
  split
  case h_1 e hresult => rw [hresult]
  case h_2 summary hresult =>
    rw [hresult]
    rfl

end ZipArchive
