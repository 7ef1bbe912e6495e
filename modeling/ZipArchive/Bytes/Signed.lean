/-!
# Signed eight-byte numbers

An eight-byte field also stands for the signed number of the same bits. The magnitude of a signed
number is the unsigned number of its bits, and any magnitude has a signed number, that of its low
bits.
-/

namespace ZipArchive.Signed

/-- The unsigned number with the bits of a signed one. -/
def magnitude (i : Int64) : UInt64 := i.toUInt64

/-- The signed number with the low bits of a magnitude. -/
def ofMagnitude (n : Nat) : Int64 := (UInt64.ofNat n).toInt64

end ZipArchive.Signed
