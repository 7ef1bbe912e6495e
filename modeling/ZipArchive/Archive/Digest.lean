import ZipArchive.Crc32

/-!
# Digests

What is known of the data of an entry once it is compressed.
-/

namespace ZipArchive

/-- The checksum of data, and its sizes. -/
structure Digest where
  /-- The checksum of the data. -/
  checksum : UInt32
  /-- The size of the data. -/
  size : Nat
  /-- The size of the compressed data. -/
  compressedSize : Nat
deriving DecidableEq, Repr, Inhabited

/-- The digest of no data. -/
def Digest.empty : Digest where
  checksum := 0
  size := 0
  compressedSize := 0

end ZipArchive
