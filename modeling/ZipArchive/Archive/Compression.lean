import ZipArchive.Archive.Digest
import ZipArchive.Compressor
import ZipArchive.Payload

/-!
# Compressing payloads

The data of an entry is read in chunks. Each is fed to a compressor until it is taken, and at the
end the compressor is asked to finish. `Codec.compressPayload` gives the compressed data, in pieces
of the size of the output buffer at most, as far as it came, and the digest or the fault at its end.
-/

namespace ZipArchive

/-- Compressed data, and how it ended. -/
structure Compressed where
  /-- The pieces put out, in order. -/
  pieces : List Bytes
  /-- The digest, or the fault that broke the data off. -/
  ending : Except Fault Digest

namespace Codec

/-- A compressor neither took nor put out anything. -/
def noProgress : Fault := .pipeline "compressor made no progress"

variable {σ : Type}

/-- Calls a compressor until it took all of `input`, or is done. The pieces put out before are
`pieces`, the last one first. A call that changes nothing is a fault, and so is one more call than
`calls`. -/
def feed (codec : Codec σ) (room : Nat) (finish : Bool) (calls : Nat) (s : σ) (input : Bytes)
    (pieces : List Bytes) : List Bytes × Except Fault σ :=
  match calls with
  | 0 => (pieces, .error noProgress)
  | calls + 1 =>
    match codec.compress s input room finish with
    | .error e => (pieces, .error e)
    | .ok (step, s) =>
      let rest := input.drop step.consumed
      let pieces := if step.output.isEmpty then pieces else step.output :: pieces
      if step.status = .done then (pieces, .ok s)
      else if step.status = .needsInput ∧ !finish ∧ rest.isEmpty then (pieces, .ok s)
      else if step.consumed = 0 ∧ step.output.isEmpty then (pieces, .error noProgress)
      else codec.feed room finish calls s rest pieces

/-- A bound on the calls for one chunk. Every call but the last takes a byte or puts one out, so more
calls would put out more bytes than a size of 64 bits can count. -/
def callLimit (input : Bytes) : Nat := UInt64.size + input.length

/-- Feeds chunks to a compressor, one after the other. -/
def feedAll (codec : Codec σ) (room : Nat) (s : σ) (pieces : List Bytes) :
    List Bytes → List Bytes × Except Fault σ
  | [] => (pieces, .ok s)
  | chunk :: chunks =>
    match codec.feed room false (callLimit chunk) s chunk pieces with
    | (pieces, .ok s) => codec.feedAll room s pieces chunks
    | failed => failed

/-- The total length of pieces. -/
def totalLength (pieces : List Bytes) : Nat :=
  pieces.foldl (fun n piece => n + piece.length) 0

/-- Compresses chunks, and finishes unless reading them ended with a fault. -/
def compressChunks (codec : Codec σ) (room : Nat) (chunks : List Bytes)
    (ending : Except Fault Unit) : Compressed :=
  let (pieces, fed) := codec.feedAll room codec.start [] chunks
  match fed, ending with
  | .error e, _ => { pieces := pieces.reverse, ending := .error e }
  | .ok _, .error e => { pieces := pieces.reverse, ending := .error e }
  | .ok s, .ok () =>
    match codec.feed room true (callLimit []) s [] pieces with
    | (pieces, .error e) => { pieces := pieces.reverse, ending := .error e }
    | (pieces, .ok _) =>
      { pieces := pieces.reverse
        ending := .ok
          { checksum := Crc32.finish (chunks.foldl Crc32.update Crc32.start)
            size := totalLength chunks
            compressedSize := totalLength pieces } }

/-- Compresses the data of an entry, read in chunks of the given size. -/
def compressPayload (codec : Codec σ) (chunkSize : Nat) (payload : Payload) : Compressed :=
  match payload with
  | .error e => { pieces := [], ending := .error e }
  | .ok reader =>
    let (chunks, ending) := reader.chunks chunkSize
    codec.compressChunks (max chunkSize 1) chunks ending

end Codec

end ZipArchive
