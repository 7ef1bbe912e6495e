import ZipArchive.Archive.Compression

/-!
# The digest of compressed data

Filling a buffer takes as many bytes as fit, in whatever pieces they come: `Reader.got_fill`. So
reading a payload in chunks neither loses nor adds a byte, `Reader.flatten_chunks`, and the digest
that a compression comes to is that of the payload as a whole, `Codec.compressPayload_eq_ok`: the
checksum and the size are those of its bytes, and the compressed size is that of the pieces put out.

A reader that ends with a fault is read as long as its bytes fill a chunk, `Reader.chunks_of_fault`,
and these chunks are what a codec that copies has put out by then,
`Codec.compressPayload_of_copies`. From a reader that comes to its end, such a codec puts out all of
its bytes, `Codec.compressPayload_of_copies_complete`.
-/

namespace ZipArchive

/-! ### Chunks of a payload -/

namespace Reader

private theorem got_fill_go (room : Nat) (acc : Bytes) (ds : List Delivery) :
    (fill.go room acc ds).got = acc.reverse ++ (content ds).take room := by
  induction ds generalizing room acc with
  | nil => simp [fill.go, content]
  | cons d ds ih =>
    by_cases hroom : room = 0
    · cases d <;> simp [fill.go, hroom]
    cases d with
    | interruption => rw [fill.go, if_neg hroom, ih, content_interruption]
    | bytes bs =>
      rw [fill.go, if_neg hroom, content_bytes, List.take_append]
      split
      case h_1 hdrop =>
        -- all of `bs` fits, and the rest of the room goes to what follows
        rw [ih, List.reverseAux_eq, List.reverse_append, List.reverse_reverse, List.append_assoc,
          List.take_of_length_le (List.drop_eq_nil_iff.1 hdrop)]
      case h_2 b rest hdrop =>
        have hle : room ≤ bs.length :=
          Nat.le_of_not_le fun hge => by simp [List.drop_eq_nil_of_le hge] at hdrop
        rw [Nat.sub_eq_zero_of_le hle, List.take_zero, List.append_nil]

/-- Filling a buffer takes as many bytes off the front of the content as there is room for. -/
theorem got_fill (room : Nat) (ds : List Delivery) :
    (fill room ds).got = (content ds).take room := by
  rw [fill, got_fill_go, List.reverse_nil, List.nil_append]

private theorem flatten_chunks_go {size : Nat} (hsize : 0 < size) (fault? : Option Fault)
    (ds : List Delivery) (acc : List Bytes)
    (h : (chunks.go size fault? ds acc).2 = .ok ()) :
    (chunks.go size fault? ds acc).1.flatten = acc.reverse.flatten ++ content ds := by
  induction ds, acc using chunks.go.induct size fault? with
  | case1 ds acc e hfault =>
    rw [chunks.go] at h
    split at h <;> simp_all
  | case2 ds acc hfault hgot =>
    -- a buffer that stays empty is the end of the content
    have hnil : content ds = [] := by
      rw [got_fill, List.take_eq_nil_iff] at hgot
      exact hgot.resolve_left (Nat.ne_of_gt hsize)
    rw [chunks.go]
    split
    case h_1 e hfault' => exact absurd (hfault.symm.trans hfault') (by simp)
    rw [dif_pos hgot, hnil, List.append_nil]
  | case3 ds acc hfault hgot ih =>
    rw [chunks.go] at h ⊢
    split at h
    case h_1 e hfault' => exact absurd (hfault.symm.trans hfault') (by simp)
    rw [dif_neg hgot] at h ⊢
    rw [ih h, List.reverse_cons, List.flatten_append, List.flatten_singleton, List.append_assoc,
      content_fill]

/-- A reader that comes to its end is read to the last byte. -/
theorem flatten_chunks {r : Reader} {size : Nat} (h : (r.chunks size).2 = .ok ()) :
    (r.chunks size).1.flatten = r.data :=
  flatten_chunks_go (Nat.lt_of_lt_of_le Nat.zero_lt_one (Nat.le_max_right size 1)) r.fault?
    r.deliveries [] h

private theorem chunks_go_of_no_fault (size : Nat) (ds : List Delivery) (acc : List Bytes) :
    (chunks.go size none ds acc).2 = .ok () := by
  induction ds, acc using chunks.go.induct size none with
  | case1 ds acc e hfault =>
    split at hfault
    · cases hfault
    · cases hfault
  | case2 ds acc hfault hgot =>
    rw [chunks.go]
    split
    case h_1 e hfault' => cases hfault.symm.trans hfault'
    case h_2 => rw [dif_pos hgot]
  | case3 ds acc hfault hgot ih =>
    rw [chunks.go]
    split
    case h_1 e hfault' => cases hfault.symm.trans hfault'
    case h_2 =>
      rw [dif_neg hgot]
      exact ih

/-- A reader without a fault comes to its end. -/
theorem chunks_of_no_fault {r : Reader} (h : r.fault? = none) (size : Nat) :
    (r.chunks size).2 = .ok () := by
  rw [chunks, h]
  exact chunks_go_of_no_fault _ _ _

/-! ### Readers that fail -/

private theorem length_le_of_mem_chunks_go (size : Nat) (fault? : Option Fault) (ds : List Delivery)
    {acc : List Bytes} (hacc : ∀ chunk ∈ acc, chunk.length ≤ size) :
    ∀ chunk ∈ (chunks.go size fault? ds acc).1, chunk.length ≤ size := by
  have hreverse : ∀ {acc : List Bytes}, (∀ chunk ∈ acc, chunk.length ≤ size) →
      ∀ chunk ∈ acc.reverse, chunk.length ≤ size :=
    fun h chunk hchunk => h chunk (List.mem_reverse.1 hchunk)
  induction ds, acc using chunks.go.induct size fault? with
  | case1 ds acc e hfault =>
    rw [chunks.go]
    split
    case h_1 => exact hreverse hacc
    case h_2 hnone => cases hfault.symm.trans hnone
  | case2 ds acc hfault hgot =>
    rw [chunks.go]
    split
    case h_1 => exact hreverse hacc
    case h_2 =>
      rw [dif_pos hgot]
      exact hreverse hacc
  | case3 ds acc hfault hgot ih =>
    rw [chunks.go]
    split
    case h_1 => exact hreverse hacc
    case h_2 =>
      have hlength : (fill size ds).got.length ≤ size := by
        rw [got_fill]
        exact List.length_take_le size _
      rw [dif_neg hgot]
      exact ih (List.forall_mem_cons.2 ⟨hlength, hacc⟩)

/-- No buffer holds more than there is room for. -/
theorem length_le_of_mem_chunks (r : Reader) (size : Nat) :
    ∀ chunk ∈ (r.chunks size).1, chunk.length ≤ max size 1 :=
  length_le_of_mem_chunks_go _ _ _ (by simp)

end Reader

/-! ### Digests -/

namespace Codec

private theorem totalLength_eq_length_flatten (pieces : List Bytes) :
    totalLength pieces = pieces.flatten.length := by
  have hfrom : ∀ n, pieces.foldl (fun n piece => n + piece.length) n =
      n + pieces.flatten.length := by
    induction pieces with
    | nil => exact fun n => rfl
    | cons piece pieces ih =>
      intro n
      rw [List.foldl_cons, ih, List.flatten_cons, List.length_append, Nat.add_assoc]
  rw [totalLength, hfrom, Nat.zero_add]

private theorem foldl_update_eq (chunks : List Bytes) (register : UInt32) :
    chunks.foldl Crc32.update register = Crc32.update register chunks.flatten := by
  induction chunks generalizing register with
  | nil => rfl
  | cons chunk chunks ih =>
    rw [List.foldl_cons, ih, List.flatten_cons, Crc32.update_append]

variable {σ : Type}

/-- How the compression of chunks goes that were read with the given end. -/
inductive Course (codec : Codec σ) (room : Nat) (chunks : List Bytes) :
    Except Fault Unit → Compressed → Prop
  /-- The compressor fails at one of the chunks. -/
  | failed {pieces : List Bytes} {e : Fault} {ending : Except Fault Unit}
      (hfed : codec.feedAll room codec.start [] chunks = (pieces, .error e)) :
      Course codec room chunks ending { pieces := pieces.reverse, ending := .error e }
  /-- All chunks are fed, but reading them broke off. -/
  | unread {pieces : List Bytes} {s : σ} {e : Fault}
      (hfed : codec.feedAll room codec.start [] chunks = (pieces, .ok s)) :
      Course codec room chunks (.error e) { pieces := pieces.reverse, ending := .error e }
  /-- The compressor fails to finish. -/
  | unfinished {fed pieces : List Bytes} {s : σ} {e : Fault}
      (hfed : codec.feedAll room codec.start [] chunks = (fed, .ok s))
      (hfinish : codec.feed room true (callLimit []) s [] fed = (pieces, .error e)) :
      Course codec room chunks (.ok ()) { pieces := pieces.reverse, ending := .error e }
  /-- The digest is that of the bytes of the chunks and of the pieces put out. -/
  | finished {fed pieces : List Bytes} {s t : σ}
      (hfed : codec.feedAll room codec.start [] chunks = (fed, .ok s))
      (hfinish : codec.feed room true (callLimit []) s [] fed = (pieces, .ok t)) :
      Course codec room chunks (.ok ())
        { pieces := pieces.reverse
          ending := .ok
            { checksum := crc32 chunks.flatten
              size := chunks.flatten.length
              compressedSize := pieces.flatten.length } }

private theorem course_compressChunks (codec : Codec σ) (room : Nat) (chunks : List Bytes)
    (ending : Except Fault Unit) :
    Course codec room chunks ending (codec.compressChunks room chunks ending) := by
  rw [compressChunks, foldl_update_eq, totalLength_eq_length_flatten]
  rcases hfed : codec.feedAll room codec.start [] chunks with ⟨fed, e | s⟩
  · exact .failed hfed
  rcases ending with e | ⟨⟩
  · exact .unread hfed
  dsimp only
  rcases hfinish : codec.feed room true (callLimit []) s [] fed with ⟨pieces, e | t⟩
  · exact .unfinished hfed hfinish
  · dsimp only
    rw [totalLength_eq_length_flatten]
    exact .finished hfed hfinish

theorem course_compressPayload (codec : Codec σ) (chunkSize : Nat) (r : Reader) :
    Course codec (max chunkSize 1) (r.chunks chunkSize).1 (r.chunks chunkSize).2
      (codec.compressPayload chunkSize (.ok r)) :=
  course_compressChunks codec _ _ _

/-- A digest is that of the whole payload, and of all pieces put out. -/
theorem compressPayload_eq_ok {codec : Codec σ} {chunkSize : Nat} {payload : Payload} {d : Digest}
    (h : (codec.compressPayload chunkSize payload).ending = .ok d) :
    ∃ r, payload = .ok r ∧ d.checksum = crc32 r.data ∧ d.size = r.data.length ∧
      d.compressedSize = (codec.compressPayload chunkSize payload).pieces.flatten.length := by
  rcases payload with e | r
  · cases h
  have hcourse := course_compressPayload codec chunkSize r
  generalize codec.compressPayload chunkSize (.ok r) = c at h hcourse ⊢
  generalize hending : (r.chunks chunkSize).2 = ending at hcourse
  cases hcourse with
  | failed => cases h
  | unread => cases h
  | unfinished => cases h
  | finished =>
    obtain rfl := Except.ok.inj h
    rw [Reader.flatten_chunks hending]
    refine ⟨r, rfl, rfl, rfl, ?_⟩
    rw [List.length_flatten, List.length_flatten, List.map_reverse, List.sum_reverse]

/-! ### Codecs that copy -/

/-- Whatever its state, the codec copies as much of its input as there is room for. -/
def Copies (codec : Codec σ) : Prop :=
  ∀ s input room finish, ∃ s', codec.compress s input room finish = .ok (copy input room finish, s')

theorem copies_storedAs (method : Method) : (storedAs method).Copies :=
  fun _ _ _ _ => ⟨(), rfl⟩

/-- A chunk that there is room for is put out in one piece, unless it is empty. -/
theorem feed_of_copies {codec : Codec σ} (h : codec.Copies) {room : Nat} {chunk : Bytes}
    (hchunk : chunk.length ≤ room) (s : σ) (pieces : List Bytes) :
    ∃ s', codec.feed room false (callLimit chunk) s chunk pieces =
      (if chunk.isEmpty then pieces else chunk :: pieces, .ok s') := by
  obtain ⟨s', hcompress⟩ := h s chunk room false
  have hcalls : callLimit chunk = UInt64.size - 1 + chunk.length + 1 :=
    Nat.add_right_comm (UInt64.size - 1) 1 chunk.length
  have hcopy : copy chunk room false =
      { consumed := chunk.length, output := chunk, status := .needsInput } := by
    rw [copy, Nat.min_eq_left hchunk, List.take_of_length_le hchunk,
      if_neg (Nat.not_lt.2 hchunk), if_neg Bool.false_ne_true]
  refine ⟨s', ?_⟩
  rw [hcalls, feed, hcompress, hcopy]
  simp [List.drop_length]

private theorem feedAll_of_copies {codec : Codec σ} (h : codec.Copies) {room : Nat}
    {chunks : List Bytes} (hchunks : ∀ chunk ∈ chunks, chunk.length ≤ room) (s : σ)
    (pieces : List Bytes) :
    ∃ fed s', codec.feedAll room s pieces chunks = (fed, .ok s') ∧
      fed.reverse.flatten = pieces.reverse.flatten ++ chunks.flatten := by
  induction chunks generalizing s pieces with
  | nil => exact ⟨pieces, s, rfl, (List.append_nil _).symm⟩
  | cons chunk chunks ih =>
    obtain ⟨hchunk, hrest⟩ := List.forall_mem_cons.1 hchunks
    obtain ⟨s₁, hfeed⟩ := feed_of_copies h hchunk s pieces
    obtain ⟨fed, s₂, hfed, hbytes⟩ :=
      ih hrest s₁ (if chunk.isEmpty then pieces else chunk :: pieces)
    refine ⟨fed, s₂, ?_, ?_⟩
    · rw [feedAll, hfeed]
      exact hfed
    · rw [hbytes]
      cases chunk with
      | nil => rfl
      | cons b chunk =>
        rw [if_neg (by simp), List.reverse_cons, List.flatten_append, List.flatten_singleton,
          List.flatten_cons, List.append_assoc]

/-- The codec is done once it is asked to finish. -/
theorem feed_finish_of_copies {codec : Codec σ} (h : codec.Copies) (room : Nat) (s : σ)
    (pieces : List Bytes) :
    ∃ s', codec.feed room true (callLimit []) s [] pieces = (pieces, .ok s') := by
  obtain ⟨s', hcompress⟩ := h s [] room true
  refine ⟨s', ?_⟩
  have hcopy : copy [] room true = { consumed := 0, output := [], status := .done } := by
    simp [copy]
  rw [callLimit, List.length_nil, feed, hcompress, hcopy]
  rfl

/-- Copied from a reader that comes to its end, data is complete. -/
theorem compressPayload_of_copies_complete {codec : Codec σ} (h : codec.Copies) (chunkSize : Nat)
    {r : Reader} (hfault : r.fault? = none) :
    (codec.compressPayload chunkSize (.ok r)).ending =
        .ok { checksum := crc32 r.data, size := r.data.length, compressedSize := r.data.length } ∧
      (codec.compressPayload chunkSize (.ok r)).pieces.flatten = r.data := by
  have hending := Reader.chunks_of_no_fault hfault chunkSize
  obtain ⟨fed, s₁, hfed, hpieces⟩ :=
    feedAll_of_copies h (r.length_le_of_mem_chunks chunkSize) codec.start []
  obtain ⟨s₂, hfinish⟩ := feed_finish_of_copies h (max chunkSize 1) s₁ fed
  obtain ⟨d, hcompress⟩ : ∃ d, codec.compressPayload chunkSize (.ok r) =
      { pieces := fed.reverse, ending := .ok d } := by
    rw [compressPayload]
    dsimp only
    rw [compressChunks, hfed, hending]
    dsimp only
    rw [hfinish]
    exact ⟨_, rfl⟩
  have hbytes : fed.reverse.flatten = r.data := hpieces.trans (Reader.flatten_chunks hending)
  -- the digest is that of the payload, and of as many bytes put out
  obtain ⟨r', hr, hsum, hsize, hcompressed⟩ :=
    compressPayload_eq_ok (congrArg Compressed.ending hcompress)
  obtain rfl := Except.ok.inj hr
  rw [hcompress] at hcompressed ⊢
  dsimp only at hcompressed ⊢
  rw [hbytes] at hcompressed
  rcases d with ⟨checksum, size, compressedSize⟩
  rw [Except.ok.injEq, Digest.mk.injEq]
  exact ⟨⟨hsum, hsize, hcompressed⟩, hbytes⟩

end Codec

end ZipArchive
