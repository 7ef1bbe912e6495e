import ZipArchive.Archive.Limits
import ZipArchive.Calendar
import ZipArchive.Flags
import ZipArchive.Method

/-!
# Local headers

The header that stands before the data of an entry. Checksum and sizes are known only once the data
is written, and are then patched in.
-/

namespace ZipArchive

/-- A local header. -/
structure LocalHeader where
  /-- The version of the format that a reader needs. -/
  versionNeeded : UInt16
  /-- The flags. -/
  flags : Flags
  /-- The compression method. -/
  method : Method
  /-- The time of modification. -/
  modified : DosTime
  /-- The checksum of the data. -/
  checksum : UInt32
  /-- The size of the compressed data. -/
  compressedSize : UInt32
  /-- The size of the data. -/
  size : UInt32
  /-- The bytes of the name. -/
  name : Bytes
  /-- The extra field stream. -/
  extra : Bytes
deriving DecidableEq, Repr

namespace LocalHeader

/-- The number that starts a local header. -/
def signature : UInt32 := 0x04034B50

/-- The number of bytes before the name. -/
def fixedSize : Nat := 30

/-- Where the checksum stands; the two sizes follow it. -/
def checksumOffset : Nat := 14

/-- The bytes of the header. -/
def toBytes (h : LocalHeader) : Bytes :=
  bytes32 signature ++ bytes16 h.versionNeeded ++ h.flags.toBytes ++ bytes16 h.method.id ++
    bytes16 h.modified.time ++ bytes16 h.modified.date ++ bytes32 h.checksum ++
    bytes32 h.compressedSize ++ bytes32 h.size ++ Bytes.toLE 2 h.name.length ++
    Bytes.toLE 2 h.extra.length ++ h.name ++ h.extra

end LocalHeader

end ZipArchive
