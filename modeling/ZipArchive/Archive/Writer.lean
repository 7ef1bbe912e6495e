import ZipArchive.Archive.Compression
import ZipArchive.Archive.EndRecord
import ZipArchive.Archive.LocalHeader
import ZipArchive.Archive.Submission
import ZipArchive.Names
import ZipArchive.Sink.Basic

/-!
# Writing archives

An archive is written to a sink entry by entry: the local header, the compressed data, and then a
patch of the header with the checksum and the sizes that are known by now. The central directory and
the end records follow. Everything that goes wrong ends the writing, and leaves in the sink what was
written before.

The sizes in a local header have four bytes each. Where they may turn out larger, room for them is
reserved in a Zip64 record beforehand: `Zip64Mode.reserves`.
-/

namespace ZipArchive

open Extra (FieldList Record Zip64)

/-- When Zip64 records are written. -/
inductive Zip64Mode where
  /-- Where a size given in advance, or a value of the central directory, calls for one. -/
  | asNeeded
  /-- For every file, and at the end of the archive. -/
  | always
deriving DecidableEq, Repr, Inhabited

/-- How archives are written, with a compressor whose states are `σ`. -/
structure WriterOptions (σ : Type) where
  /-- The number of bytes that are read and compressed at a time. -/
  chunkSize : Nat := 65536
  /-- How names and comments are written. -/
  names : NameOptions := {}
  /-- When Zip64 records are written. -/
  zip64 : Zip64Mode := .asNeeded
  /-- The compressor for files. -/
  codec : Codec σ

/-- What was written. -/
structure Summary where
  /-- The number of entries. -/
  entries : Nat
  /-- The size of all data. -/
  bytesIn : Nat
  /-- The size of all compressed data. -/
  bytesOut : Nat
  /-- The position of the central directory. -/
  directoryOffset : Nat
  /-- The position of the end of the archive. -/
  archiveSize : Nat
deriving DecidableEq, Repr

/-! ### Preparing entries -/

/-- An entry ready to be written. -/
structure Prepared (κ : Type) where
  /-- The entry. -/
  entry : Entry κ
  /-- The bytes of its name and its comment. -/
  text : EncodedText
  /-- Its compressed data. -/
  data : Compressed

section Prepare

variable {κ σ : Type} [Record κ]

/-- The entry with the method that its data is compressed by, and without a data descriptor. -/
def Entry.forMethod (e : Entry κ) (method : Method) : Entry κ :=
  { e with
    flags := { e.flags with dataDescriptor := false }
    method := if e.isDirectory then .stored else method }

/-- Encodes the text of a submitted entry and compresses its data. The data of a directory is not
looked at. -/
def WriterOptions.prepare (o : WriterOptions σ) (s : Submission κ) : Except Fault (Prepared κ) :=
  match (s.entry.forMethod o.codec.method).encodeText o.names with
  | (.error e, _) => .error e
  | (.ok text, entry) =>
    .ok
      { entry, text
        data :=
          if entry.isDirectory then { pieces := [], ending := .ok .empty }
          else o.codec.compressPayload o.chunkSize s.payload }

end Prepare

/-! ### Local headers -/

section LocalHeader

variable {κ : Type} [Record κ]

/-- Whether room is reserved for sizes of eight bytes in the local header of an entry. -/
def Zip64Mode.reserves (mode : Zip64Mode) (e : Entry κ) : Bool :=
  !e.isDirectory &&
    (mode = .always || e.size?.any fun size => marker32 ≤ size.toNat)

/-- The entry with exactly the Zip64 record that is reserved in its local header, if any. -/
def Entry.reserveSizes (e : Entry κ) (reserved : Bool) : Entry κ :=
  if reserved then e.addExtra (.zip64 (.ofSizes 0 0)) else e.removeExtra Zip64.recordId

/-- The local header of an entry before checksum and sizes are known. -/
def Entry.localHeader (e : Entry κ) (name : Bytes) (reserved : Bool) :
    Except Fault LocalHeader := do
  let extra ← e.extraData .localHeader
  checkLength "entry name" name
  checkLength "local extra field" extra
  let sizes := if reserved then saturate32 marker32 else 0
  return {
    versionNeeded := if reserved then CentralHeader.zip64Version else e.method.versionNeeded
    flags := e.flags
    method := e.method
    modified := e.dosTime
    checksum := 0
    compressedSize := sizes
    size := sizes
    name := name
    extra := extra }

/-- The patches that enter a digest into a local header with the given name at `start`, as positions
and bytes. Sizes that are too large for the header are a fault. -/
def Entry.patches (e : Entry κ) (name : Bytes) (reserved : Bool) (start : Nat) (d : Digest) :
    Except Fault (List (Nat × Bytes)) :=
  let checksumAt := start + LocalHeader.checksumOffset
  match if reserved then FieldList.payloadOffset? Zip64.recordId e.extra else none with
  | some offset =>
    .ok [(checksumAt, bytes32 d.checksum),
      (start + LocalHeader.fixedSize + name.length + offset,
        Bytes.toLE 8 d.size ++ Bytes.toLE 8 d.compressedSize)]
  | none =>
    if marker32 ≤ d.size ∨ marker32 ≤ d.compressedSize then
      .error (.invalidHeader
        (s!"entry {e.name} is {d.size} bytes but its local header has no Zip64 sizes; " ++
          "set a size hint or use Zip64Mode::Always"))
    else
      .ok [(checksumAt,
        bytes32 d.checksum ++ Bytes.toLE 4 d.compressedSize ++ Bytes.toLE 4 d.size)]

/-- The central header of an entry whose local header is at `offset`. -/
def Entry.centralHeader (e : Entry κ) (text : EncodedText) (reserved : Bool) (offset : Nat)
    (d : Digest) : Except Fault CentralHeader := do
  let extra ← (e.removeExtra Zip64.recordId).extraData .central
  return {
    versionNeeded := if reserved then CentralHeader.zip64Version else e.method.versionNeeded
    flags := e.flags
    method := e.method
    modified := e.dosTime
    digest := d
    name := text.name
    comment := text.comment
    extra := extra
    externalAttributes := e.externalAttributes
    offset := offset }

end LocalHeader

/-! ### Writing -/

/-- Steps that write to a sink. A step that fails leaves the sink as it became. -/
abbrev Writing (τ : Type) := ExceptT Fault (StateM τ)

namespace Writing

variable {τ : Type} [Sink τ]

/-- Appends bytes and answers the position of the first. -/
def append (bs : Bytes) : Writing τ Nat :=
  ExceptT.mk fun sink => Sink.append sink bs

/-- Replaces bytes appended before. -/
def patch (position : Nat) (bs : Bytes) : Writing τ Unit :=
  ExceptT.mk fun sink => Sink.patch sink position bs

/-- Hands on what was written. -/
def flush : Writing τ Unit :=
  ExceptT.mk Sink.flush

/-- The position of the next bytes. -/
def position : Writing τ Nat :=
  ExceptT.mk fun sink => (.ok (Sink.position sink), sink)

end Writing

variable {κ σ τ : Type} [Record κ] [Sink τ]

/-- Writes an entry, and answers its central header. -/
def Prepared.write (p : Prepared κ) (mode : Zip64Mode) : Writing τ CentralHeader := do
  let reserved := mode.reserves p.entry
  let entry := p.entry.reserveSizes reserved
  let header ← entry.localHeader p.text.name reserved
  let start ← Writing.append header.toBytes
  p.data.pieces.forM fun piece => discard (Writing.append piece)
  let digest ← p.data.ending
  let patches ← entry.patches p.text.name reserved start digest
  patches.forM fun (position, bs) => Writing.patch position bs
  entry.centralHeader p.text reserved start digest

/-- Writes the entries of submissions, and answers their central headers. -/
def writeEntries (o : WriterOptions σ) (submissions : List (Except Fault (Submission κ))) :
    Writing τ (List CentralHeader) :=
  submissions.mapM fun s => do
    let prepared : Prepared κ ← s.bind o.prepare
    prepared.write o.zip64

/-- The central directory of headers. -/
def centralDirectory (headers : List CentralHeader) : Except Fault Bytes :=
  List.flatten <$> headers.mapM CentralHeader.toBytes

/-- The sum of a number over headers. -/
def total (f : CentralHeader → Nat) (headers : List CentralHeader) : Nat :=
  headers.foldl (fun n h => n + f h) 0

/-- Writes the central directory and the end records. -/
def writeDirectory (mode : Zip64Mode) (headers : List CentralHeader) : Writing τ Summary := do
  let directoryOffset ← Writing.position
  let directory ← centralDirectory headers
  discard (Writing.append directory)
  let record : EndRecord :=
    { entries := headers.length, directorySize := directory.length, directoryOffset }
  let zip64 := mode = .always || record.needsZip64 || headers.any CentralHeader.needsZip64
  discard (Writing.append (record.toBytes zip64))
  return {
    entries := headers.length
    bytesIn := total (·.digest.size) headers
    bytesOut := total (·.digest.compressedSize) headers
    directoryOffset
    archiveSize := ← Writing.position }

/-- Writes an archive of all submissions of a queue. -/
def writeArchive (o : WriterOptions σ) (queue : List (Source κ)) : Writing τ Summary := do
  let headers ← writeEntries o (queue.flatMap Source.submissions)
  let summary ← writeDirectory o.zip64 headers
  Writing.flush
  return summary

end ZipArchive
