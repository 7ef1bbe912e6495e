import ZipArchive.Bytes.LittleEndian

/-!
# General purpose flags

The flag word of a header. Two of its bits have a meaning here: bit 3 says that digest and sizes
follow the data, bit 11 that name and comment are UTF-8. The other bits are dropped on reading.
-/

namespace ZipArchive

/-- The flags of a header. -/
structure Flags where
  /-- Digest and sizes follow the data in a descriptor. -/
  dataDescriptor : Bool := false
  /-- Name and comment are UTF-8. -/
  utf8Names : Bool := false
deriving DecidableEq, Repr, Inhabited

namespace Flags

/-- The flags of a word. -/
def ofWord (n : UInt16) : Flags where
  dataDescriptor := n.toNat.testBit 3
  utf8Names := n.toNat.testBit 11

/-- The word of the flags. -/
def toWord (f : Flags) : UInt16 :=
  (if f.dataDescriptor then 8 else 0) + (if f.utf8Names then 2048 else 0)

/-- Reads the flags stored in `buf` at `offset`. -/
def read (buf : Bytes) (offset : Position) : Except Fault Flags :=
  (fun n => ofWord (UInt16.ofNat n)) <$> Width.short.read buf offset

/-- The bytes of the flags in a header. -/
def toBytes (f : Flags) : Bytes :=
  bytes16 f.toWord

theorem ofWord_toWord (f : Flags) : ofWord f.toWord = f := by
  rcases f with ⟨d, u⟩
  cases d <;> cases u <;> decide

end Flags

end ZipArchive
