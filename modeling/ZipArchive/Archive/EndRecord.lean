import ZipArchive.Archive.CentralHeader

/-!
# End records

The last bytes of an archive say how many entries it has and where its central directory stands.
If any of these numbers does not fit, they stand in a Zip64 end record, which a locator points to.
-/

namespace ZipArchive

/-- Where the central directory stands, and what it holds. -/
structure EndRecord where
  /-- The number of entries. -/
  entries : Nat
  /-- The size of the central directory. -/
  directorySize : Nat
  /-- The position of the central directory. -/
  directoryOffset : Nat
deriving DecidableEq, Repr

namespace EndRecord

/-- The number that starts an end record. -/
def signature : UInt32 := 0x06054B50

/-- The number that starts a Zip64 end record. -/
def zip64Signature : UInt32 := 0x06064B50

/-- The number that starts a locator. -/
def locatorSignature : UInt32 := 0x07064B50

/-- Whether any number does not fit. -/
def needsZip64 (r : EndRecord) : Bool :=
  marker16 ≤ r.entries || marker32 ≤ r.directorySize || marker32 ≤ r.directoryOffset

/-- The Zip64 end record, of 44 bytes behind its size. -/
def zip64Bytes (r : EndRecord) : Bytes :=
  bytes32 zip64Signature ++ Bytes.toLE 8 44 ++ bytes16 CentralHeader.madeBy ++
    bytes16 CentralHeader.zip64Version ++ Bytes.toLE 4 0 ++ Bytes.toLE 4 0 ++
    Bytes.toLE 8 r.entries ++ Bytes.toLE 8 r.entries ++ Bytes.toLE 8 r.directorySize ++
    Bytes.toLE 8 r.directoryOffset

/-- The locator of a Zip64 end record that follows the central directory. -/
def locatorBytes (r : EndRecord) : Bytes :=
  bytes32 locatorSignature ++ Bytes.toLE 4 0 ++
    Bytes.toLE 8 (r.directoryOffset + r.directorySize) ++ Bytes.toLE 4 1

/-- The end record itself. -/
def plainBytes (r : EndRecord) : Bytes :=
  bytes32 signature ++ Bytes.toLE 2 0 ++ Bytes.toLE 2 0 ++ bytes16 (saturate16 r.entries) ++
    bytes16 (saturate16 r.entries) ++ bytes32 (saturate32 r.directorySize) ++
    bytes32 (saturate32 r.directoryOffset) ++ Bytes.toLE 2 0

/-- The end of an archive, with or without the Zip64 records. -/
def toBytes (r : EndRecord) (zip64 : Bool) : Bytes :=
  if zip64 then r.zip64Bytes ++ r.locatorBytes ++ r.plainBytes else r.plainBytes

end EndRecord

end ZipArchive
