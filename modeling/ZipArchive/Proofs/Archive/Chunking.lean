import ZipArchive.Proofs.Archive.BreakingOff

/-!
# Archives do not depend on how payloads are read

Where an entry is laid out, its data counts by its bytes and by its end alone, not by the pieces it
was put out in: `Prepared.SameData.layout_eq`. So two writers whose compressors come to the same
bytes and the same end for each submission leave the same archive, `layoutArchive_eq`.

A codec that copies comes to the bytes of the payload, whatever the chunks it is read in and
whatever the pieces that a reader delivers. An archive of entries stored as they are is therefore
the same for every chunk size and for all readers of the same bytes: `writeArchive_storedAs`.
-/

namespace ZipArchive

open Extra (Record)

/-- Both steps fail with the same fault, or both come to a result, and the results are related. -/
inductive BothComeTo {α β : Type} (R : α → β → Prop) : Except Fault α → Except Fault β → Prop
  | error (e : Fault) : BothComeTo R (.error e) (.error e)
  | ok {a : α} {b : β} (h : R a b) : BothComeTo R (.ok a) (.ok b)

/-! ### Data that comes to the same -/

/-- The same bytes, in whatever pieces, with the same end. -/
structure Compressed.SameData (c c' : Compressed) : Prop where
  bytes_eq : c'.pieces.flatten = c.pieces.flatten
  ending_eq : c'.ending = c.ending

/-- The same entry with the same data. -/
structure Prepared.SameData {κ : Type} (p p' : Prepared κ) : Prop where
  entry_eq : p'.entry = p.entry
  text_eq : p'.text = p.text
  data : p.data.SameData p'.data

/-- The same entry, with payloads that two writers compress to the same data unless it is a
directory. -/
structure Submission.CompressedAlike {κ σ σ' : Type} (o : WriterOptions σ) (o' : WriterOptions σ')
    (s s' : Submission κ) : Prop where
  entry_eq : s'.entry = s.entry
  data : s.entry.isDirectory = false →
    (o.codec.compressPayload o.chunkSize s.payload).SameData
      (o'.codec.compressPayload o'.chunkSize s'.payload)

/-- Two writers agree in all but the way to the compressed data. -/
structure WriterOptions.Agree {σ σ' : Type} (o : WriterOptions σ) (o' : WriterOptions σ') :
    Prop where
  names_eq : o'.names = o.names
  zip64_eq : o'.zip64 = o.zip64
  method_eq : o'.codec.method = o.codec.method

variable {κ σ σ' τ : Type} [Record κ]

/-! ### Layouts -/

/-- The pieces that data comes in leave no trace in the layout of an entry. -/
theorem Prepared.SameData.layout_eq {p p' : Prepared κ} (h : p.SameData p') (mode : Zip64Mode)
    (start : Nat) : p'.layout mode start = p.layout mode start := by
  simp only [layout, h.entry_eq, h.text_eq, h.data.bytes_eq, h.data.ending_eq]

section Agree

variable {o : WriterOptions σ} {o' : WriterOptions σ'}

private theorem WriterOptions.Agree.prepare (ho : o.Agree o') {s s' : Submission κ}
    (h : s.CompressedAlike o o' s') :
    BothComeTo Prepared.SameData (o.prepare s) (o'.prepare s') := by
  rw [WriterOptions.prepare, WriterOptions.prepare, h.entry_eq, ho.names_eq, ho.method_eq]
  rcases htext : (s.entry.forMethod o.codec.method).encodeText o.names with ⟨e | text, entry⟩
  · exact .error e
  · refine .ok ⟨rfl, rfl, ?_⟩
    obtain ⟨utf8Names, extra, hentry, -⟩ := Entry.agreesButText_of_encodeText htext
    have hdirectory : entry.isDirectory = s.entry.isDirectory := by
      rw [hentry]
      rfl
    dsimp only
    rw [hdirectory]
    cases hkind : s.entry.isDirectory with
    | true => exact ⟨rfl, rfl⟩
    | false => exact h.data hkind

private theorem layoutSubmission_eq (ho : o.Agree o') {s s' : Except Fault (Submission κ)}
    (h : BothComeTo (Submission.CompressedAlike o o') s s') (start : Nat) :
    layoutSubmission o' start s' = layoutSubmission o start s := by
  have hprepare : BothComeTo Prepared.SameData (s.bind o.prepare) (s'.bind o'.prepare) := by
    rcases h with e | h
    · exact .error e
    · exact ho.prepare h
  rw [layoutSubmission, layoutSubmission, ho.zip64_eq]
  generalize s.bind o.prepare = x at hprepare
  generalize s'.bind o'.prepare = x' at hprepare
  rcases hprepare with e | h
  · rfl
  · exact h.layout_eq o.zip64 start

private theorem layoutEntries_eq (ho : o.Agree o') {ss ss' : List (Except Fault (Submission κ))}
    (h : List.Forall₂ (BothComeTo (Submission.CompressedAlike o o')) ss ss') (start : Nat) :
    layoutEntries o' start ss' = layoutEntries o start ss := by
  -- the offsets agree as well, since an entry starts where the layout before it ended
  induction h generalizing start with
  | nil => rfl
  | cons hs _ ih =>
    rw [layoutEntries, layoutEntries, layoutSubmission_eq ho hs]
    simp only [ih]

/-- Writers that agree, and whose compressors come to the same data for each submission, lay out the
same archive. -/
theorem layoutArchive_eq (ho : o.Agree o') {ss ss' : List (Except Fault (Submission κ))}
    (h : List.Forall₂ (BothComeTo (Submission.CompressedAlike o o')) ss ss') (start : Nat) :
    layoutArchive o' start ss' = layoutArchive o start ss := by
  rw [layoutArchive, layoutArchive, layoutEntries_eq ho h, ho.zip64_eq]

end Agree

/-! ### Payloads of the same bytes -/

/-- Two readers come to their end, and deliver the same bytes until then. -/
structure Reader.SameData (r r' : Reader) : Prop where
  complete_left : r.fault? = none
  complete_right : r'.fault? = none
  data_eq : r'.data = r.data

/-- The same entry, with payloads of the same bytes or payloads that cannot be opened, unless it is
a directory. -/
structure Submission.SameData (s s' : Submission κ) : Prop where
  entry_eq : s'.entry = s.entry
  payload : s.entry.isDirectory = false → BothComeTo Reader.SameData s.payload s'.payload

/-- What is copied does not depend on how it is read. -/
theorem Codec.Copies.sameData {codec : Codec σ} {codec' : Codec σ'} (h : codec.Copies)
    (h' : codec'.Copies) {payload payload' : Payload}
    (hpayload : BothComeTo Reader.SameData payload payload') (chunkSize chunkSize' : Nat) :
    (codec.compressPayload chunkSize payload).SameData
      (codec'.compressPayload chunkSize' payload') := by
  rcases hpayload with e | ⟨hr, hr', hdata⟩
  · exact ⟨rfl, rfl⟩
  · obtain ⟨hending, hbytes⟩ := compressPayload_of_copies_complete h chunkSize hr
    obtain ⟨hending', hbytes'⟩ := compressPayload_of_copies_complete h' chunkSize' hr'
    refine ⟨?_, ?_⟩
    · rw [hbytes, hbytes', hdata]
    · rw [hending, hending', hdata]

/-- A writer that copies lays out the same archive for any size of chunks, and for all payloads of
the same bytes. -/
theorem layoutArchive_of_copies {o : WriterOptions σ} (hcopies : o.codec.Copies) (chunkSize : Nat)
    {ss ss' : List (Except Fault (Submission κ))}
    (h : List.Forall₂ (BothComeTo Submission.SameData) ss ss') (start : Nat) :
    layoutArchive { o with chunkSize := chunkSize } start ss' = layoutArchive o start ss := by
  have hagree : o.Agree { o with chunkSize := chunkSize } := ⟨rfl, rfl, rfl⟩
  refine layoutArchive_eq hagree (h.imp ?_) start
  rintro _ _ (e | hs)
  · exact .error e
  · refine .ok ⟨hs.entry_eq, fun hfile => ?_⟩
    exact hcopies.sameData hcopies (hs.payload hfile) o.chunkSize chunkSize

/-! ### Archives -/

/-- Whatever writing an archive comes to, a lawful sink is left with its layout. -/
theorem holds_writeArchive [Sink τ] [LawfulSink τ] (o : WriterOptions σ) (queue : List (Source κ))
    {s : τ} {base : Nat} {bs : Bytes} (hs : LawfulSink.Holds s base bs) :
    LawfulSink.Holds ((writeArchive o queue).outcome s).2 base
      (bs ++ (layoutArchive o (base + bs.length) (queue.flatMap Source.submissions)).1) := by
  obtain ⟨t, htholds, ht⟩ := exists_outcome_of_writeArchive o queue hs
  rw [ht]
  split
  · exact htholds
  · exact LawfulSink.flush_holds htholds

omit [Record κ] in
private theorem MemorySink.eq_of_bytes_eq {s t : MemorySink} (h : s.bytes = t.bytes) : s = t := by
  rcases s with ⟨contents⟩
  rcases t with ⟨contents'⟩
  rw [MemorySink.mk.injEq]
  exact Array.toList_inj.1 h

/-- Entries that are stored do not depend on how their data is read. Whatever pieces a reader
delivers its bytes in, with any interruptions in between, and whatever the size of the chunks, of
which zero counts as one, a codec that copies comes to the checksum and the size of these bytes, and
puts out just them. So an archive of stored entries is the same for every size of chunks and for all
readers of the same bytes: on a sink in memory writing comes to the same result and leaves the same
bytes, also if it fails, and every lawful sink is left with the same bytes. -/
theorem writeArchive_storedAs [Sink τ] [LawfulSink τ] (method : Method) :
    (∀ (chunkSize : Nat) (r : Reader), r.fault? = none →
      ((Codec.storedAs method).compressPayload chunkSize (.ok r)).ending = .ok
        { checksum := crc32 r.data, size := r.data.length, compressedSize := r.data.length } ∧
      ((Codec.storedAs method).compressPayload chunkSize (.ok r)).pieces.flatten = r.data) ∧
    (∀ payload, (Codec.storedAs method).compressPayload 0 payload =
      (Codec.storedAs method).compressPayload 1 payload) ∧
    ∀ (o : WriterOptions Unit) (chunkSize : Nat) (queue queue' : List (Source κ)),
      o.codec = .storedAs method →
      List.Forall₂ (BothComeTo Submission.SameData) (queue.flatMap Source.submissions)
        (queue'.flatMap Source.submissions) →
      (∀ s : MemorySink, (writeArchive { o with chunkSize := chunkSize } queue').outcome s =
        (writeArchive o queue).outcome s) ∧
      ∀ (s : τ) (base : Nat) (bs : Bytes), LawfulSink.Holds s base bs → ∃ out,
        LawfulSink.Holds ((writeArchive o queue).outcome s).2 base (bs ++ out) ∧
        LawfulSink.Holds ((writeArchive { o with chunkSize := chunkSize } queue').outcome s).2 base
          (bs ++ out) := by
  refine ⟨?_, fun payload => rfl, ?_⟩
  · intro chunkSize r hr
    exact Codec.compressPayload_of_copies_complete (Codec.copies_storedAs method) chunkSize hr
  intro o chunkSize queue queue' hcodec hqueues
  have hcopies : o.codec.Copies := by
    rw [hcodec]
    exact Codec.copies_storedAs method
  have hlayout := layoutArchive_of_copies hcopies chunkSize hqueues
  constructor
  · intro s
    obtain ⟨t, ht, htbytes⟩ := exists_outcome_of_layoutArchive o queue s
    obtain ⟨t', ht', htbytes'⟩ :=
      exists_outcome_of_layoutArchive { o with chunkSize := chunkSize } queue' s
    rw [hlayout] at ht' htbytes'
    rw [ht, ht', MemorySink.eq_of_bytes_eq (htbytes'.trans htbytes.symm)]
  · intro s base bs hs
    have hholds := holds_writeArchive { o with chunkSize := chunkSize } queue' hs
    rw [hlayout] at hholds
    exact ⟨_, holds_writeArchive o queue hs, hholds⟩

/-- Five bytes that are delivered in pieces. -/
def sampleReader : Reader where
  deliveries := [.interruption, .bytes [1, 2], .bytes [3], .interruption, .bytes [4, 5]]

/-- The file of these bytes, from that reader and from memory. -/
def sampleQueues : List (Source Empty) × List (Source Empty) :=
  ([.one { entry := .file "a", payload := .ok sampleReader }],
    [.one { entry := .file "a", payload := .ofBytes [1, 2, 3, 4, 5] }])

/-- Read in chunks of two bytes, and in ones of a single byte. -/
theorem writeArchive_storedAs_sampleReader :
    ((Codec.storedAs .stored).compressPayload 2 (.ok sampleReader)).pieces.flatten =
      [1, 2, 3, 4, 5] ∧
    (writeArchive ({ chunkSize := 0, codec := .stored } : WriterOptions Unit)
        sampleQueues.2).outcome (MemorySink.ofBytes [9]) =
      (writeArchive ({ chunkSize := 2, codec := .stored } : WriterOptions Unit)
        sampleQueues.1).outcome (MemorySink.ofBytes [9]) := by
  obtain ⟨hcopied, -, harchive⟩ :=
    writeArchive_storedAs (κ := Empty) (τ := MemorySink) .stored
  refine ⟨(hcopied 2 sampleReader rfl).2, ?_⟩
  refine (harchive { chunkSize := 2, codec := .stored } 0 _ _ rfl ?_).1 _
  exact .cons (.ok ⟨rfl, fun _ => .ok ⟨rfl, rfl, rfl⟩⟩) .nil

end ZipArchive
