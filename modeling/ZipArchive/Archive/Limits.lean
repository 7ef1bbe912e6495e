import ZipArchive.Bytes.LittleEndian

/-!
# Limits of header fields

A count that does not fit its field is written as the largest number of the field, and stands in
full elsewhere. That number itself counts as one that does not fit.
-/

namespace ZipArchive

/-- The largest number of a two-byte field. -/
def marker16 : Nat := 0xFFFF

/-- The largest number of a four-byte field. -/
def marker32 : Nat := 0xFFFFFFFF

/-- The two-byte field for a number. -/
def saturate16 (n : Nat) : UInt16 := UInt16.ofNat (min n marker16)

/-- The four-byte field for a number. -/
def saturate32 (n : Nat) : UInt32 := UInt32.ofNat (min n marker32)

/-- The value that has to stand elsewhere because a four-byte field does not hold it. -/
def overflow32? (n : Nat) : Option UInt64 :=
  if marker32 ≤ n then some (UInt64.ofNat n) else none

/-- Refuses a part of a header that is too long for its length to be written. -/
def checkLength (what : String) (bs : Bytes) : Except Fault Unit :=
  if bs.length ≤ 65535 then .ok ()
  else .error (.invalidHeader s!"{what} of {bs.length} bytes exceeds 65535")

end ZipArchive
