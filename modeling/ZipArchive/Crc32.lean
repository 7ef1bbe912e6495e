import ZipArchive.Bytes.Basic

/-!
# The CRC-32 checksum

The reflected cyclic redundancy check of archives (polynomial `0xEDB88320`, all ones at the start
and complemented at the end). `Crc32.update` takes bytes into a running register, so that the
checksum of a concatenation is that of its parts in turn: `update_append`.
-/

namespace ZipArchive.Crc32

/-- One bit of division by the polynomial. -/
def shift (r : UInt32) : UInt32 :=
  if r &&& 1 = 1 then (r >>> 1) ^^^ 0xEDB88320 else r >>> 1

/-- Takes one byte into the register. -/
def step (r : UInt32) (b : UInt8) : UInt32 :=
  shift (shift (shift (shift (shift (shift (shift (shift (r ^^^ b.toUInt32))))))))

/-- Takes bytes into the register, first to last. -/
def update (r : UInt32) (bs : Bytes) : UInt32 :=
  bs.foldl step r

/-- The register before the first byte. -/
def start : UInt32 := 0xFFFFFFFF

/-- The checksum for a register. -/
def finish (r : UInt32) : UInt32 :=
  r ^^^ 0xFFFFFFFF

/-- The checksum of a byte string. -/
def checksum (bs : Bytes) : UInt32 :=
  finish (update start bs)

theorem update_append (r : UInt32) (a b : Bytes) : update r (a ++ b) = update (update r a) b :=
  List.foldl_append

-- the customary check value, of the digits from one to nine
example : checksum [0x31, 0x32, 0x33, 0x34, 0x35, 0x36, 0x37, 0x38, 0x39] = 0xCBF43926 := by
  decide +kernel

end ZipArchive.Crc32

namespace ZipArchive

/-- The CRC-32 checksum of a byte string. -/
abbrev crc32 (bs : Bytes) : UInt32 := Crc32.checksum bs

end ZipArchive
