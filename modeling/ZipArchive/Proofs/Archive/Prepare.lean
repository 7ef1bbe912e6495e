import ZipArchive.Archive.Writer
import ZipArchive.Proofs.Archive.Compression
import ZipArchive.Proofs.Names

/-!
# What an entry is prepared to

The data of a submission, `Submission.content`, and what the compressor makes of it,
`WriterOptions.compressed`, determine the digest of the entry: `WriterOptions.digest`. When the data
of a prepared entry comes to its end, it has this digest, `WriterOptions.prepare_eq_ok`.
-/

namespace ZipArchive

open Extra (Record)

variable {κ σ : Type} [Record κ]

/-- The data of a submission. A directory has none, whatever is submitted with it. -/
def Submission.content (s : Submission κ) : Bytes :=
  if s.entry.isDirectory then []
  else
    match s.payload with
    | .ok r => r.data
    | .error _ => []

/-- The compressed data of a submission, all pieces put out by the compressor. -/
def WriterOptions.compressed (o : WriterOptions σ) (s : Submission κ) : Bytes :=
  if s.entry.isDirectory then []
  else (o.codec.compressPayload o.chunkSize s.payload).pieces.flatten

/-- The digest of the data of a submission. -/
def WriterOptions.digest (o : WriterOptions σ) (s : Submission κ) : Digest where
  checksum := crc32 s.content
  size := s.content.length
  compressedSize := (o.compressed s).length

private theorem crc32_nil : crc32 [] = 0 := by decide

/-- A prepared entry has the text of the submitted one and its compressed data, and a digest of the
data if this comes to its end. -/
theorem WriterOptions.prepare_eq_ok {o : WriterOptions σ} {s : Submission κ} {p : Prepared κ}
    (h : o.prepare s = .ok p) :
    (s.entry.forMethod o.codec.method).encodeText o.names = (.ok p.text, p.entry) ∧
      p.data.pieces.flatten = o.compressed s ∧
      ∀ d, p.data.ending = .ok d →
        d = o.digest s ∧ (s.entry.isDirectory = false → ∃ r, s.payload = .ok r) := by
  rw [prepare] at h
  rcases htext : (s.entry.forMethod o.codec.method).encodeText o.names with ⟨e | text, entry⟩
  · exact absurd h (by simp [htext])
  rw [htext] at h
  obtain rfl := Except.ok.inj h
  obtain ⟨utf8Names, extra, rfl, -⟩ := Entry.agreesButText_of_encodeText htext
  refine ⟨rfl, ?_⟩
  cases hdir : s.entry.isDirectory with
  | true =>
    simp only [Entry.forMethod, compressed, digest, Submission.content, hdir, if_true]
    refine ⟨rfl, fun d hd => ?_⟩
    obtain rfl := Except.ok.inj hd
    rw [crc32_nil]
    exact ⟨rfl, fun hfile => absurd hfile (by simp)⟩
  | false =>
    simp only [Entry.forMethod, compressed, digest, Submission.content, hdir, Bool.false_eq_true,
      if_false, true_and]
    intro d hd
    obtain ⟨r, hr, hsum, hsize, hcompressed⟩ := Codec.compressPayload_eq_ok hd
    rw [hr] at hcompressed
    refine ⟨?_, fun _ => ⟨r, hr⟩⟩
    simp only [hr, ← hsum, ← hsize, ← hcompressed]

end ZipArchive
