import ZipArchive.Archive.Digest
import ZipArchive.Archive.Limits
import ZipArchive.Calendar
import ZipArchive.Extra.Stream
import ZipArchive.Flags
import ZipArchive.Method

/-!
# Central headers

The header of an entry in the central directory. It repeats the local header, and adds the comment,
the attributes of the file and the position of the local header. Values that four bytes do not hold
stand in a Zip64 record before the other extra fields.
-/

namespace ZipArchive

open Extra (Zip64)

/-- A header of the central directory. -/
structure CentralHeader where
  /-- The version that a reader needs, unless it needs Zip64. -/
  versionNeeded : UInt16
  /-- The flags. -/
  flags : Flags
  /-- The compression method. -/
  method : Method
  /-- The time of modification. -/
  modified : DosTime
  /-- Checksum and sizes of the data. -/
  digest : Digest
  /-- The bytes of the name. -/
  name : Bytes
  /-- The bytes of the comment. -/
  comment : Bytes
  /-- The extra field stream, without the Zip64 record of this header. -/
  extra : Bytes
  /-- The external attributes. -/
  externalAttributes : UInt32
  /-- The position of the local header. -/
  offset : Nat
deriving DecidableEq, Repr

namespace CentralHeader

/-- The number that starts a central header. -/
def signature : UInt32 := 0x02014B50

/-- The version of the format, and the system, that entries are said to be made by. -/
def madeBy : UInt16 := 0x031E

/-- The version that readers of Zip64 values need. -/
def zip64Version : UInt16 := 45

/-- The Zip64 record of the values that do not fit. -/
def zip64 (h : CentralHeader) : Zip64 where
  size? := overflow32? h.digest.size
  compressedSize? := overflow32? h.digest.compressedSize
  offset? := overflow32? h.offset

/-- Whether any value does not fit. -/
def needsZip64 (h : CentralHeader) : Bool :=
  !h.zip64.isEmpty

/-- All extra fields of the header. -/
def allExtra (h : CentralHeader) : Bytes :=
  if h.needsZip64 then
    let payload := h.zip64.centralData
    bytes16 Zip64.recordId ++ Bytes.toLE 2 payload.length ++ payload ++ h.extra
  else h.extra

/-- The bytes of the header. -/
def toBytes (h : CentralHeader) : Except Fault Bytes := do
  checkLength "central extra field" h.allExtra
  checkLength "entry name" h.name
  checkLength "entry comment" h.comment
  let version := if h.needsZip64 then zip64Version else h.versionNeeded
  return bytes32 signature ++ bytes16 madeBy ++ bytes16 version ++ h.flags.toBytes ++
    bytes16 h.method.id ++ bytes16 h.modified.time ++ bytes16 h.modified.date ++
    bytes32 h.digest.checksum ++ bytes32 (saturate32 h.digest.compressedSize) ++
    bytes32 (saturate32 h.digest.size) ++ Bytes.toLE 2 h.name.length ++
    Bytes.toLE 2 h.allExtra.length ++ Bytes.toLE 2 h.comment.length ++
    Bytes.toLE 2 0 ++ Bytes.toLE 2 0 ++ bytes32 h.externalAttributes ++
    bytes32 (saturate32 h.offset) ++ h.name ++ h.allExtra ++ h.comment

end CentralHeader

end ZipArchive
