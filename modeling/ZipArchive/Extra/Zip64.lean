import ZipArchive.Extra.Record

/-!
# Zip64 extended information

The record with the values that are too large for the 32-bit fields of a header: size, compressed
size, offset of the local header and number of the disk. The central payload holds those of them
that are needed, in this order and without saying which. So it is first read as if none before the
last were missing, and kept, to be read again once the header fields are known:
`reparseCentral`. The local payload is empty or has both sizes first.
-/

namespace ZipArchive.Extra

/-- A Zip64 record. -/
structure Zip64 where
  /-- The size of the data. -/
  size? : Option UInt64 := none
  /-- The size of the compressed data. -/
  compressedSize? : Option UInt64 := none
  /-- The position of the local header. -/
  offset? : Option UInt64 := none
  /-- The number of the disk on which the entry starts. -/
  disk? : Option UInt32 := none
  /-- The central payload that was read last. -/
  rawCentral? : Option Bytes := none
deriving DecidableEq, Repr, Inhabited

namespace Zip64

/-- The id of the record. -/
def recordId : UInt16 := 0x0001

/-- A record of both sizes, as it stands in a local header. -/
def ofSizes (size compressedSize : UInt64) : Zip64 :=
  { size? := some size, compressedSize? := some compressedSize }

/-- The bytes of a value, if there is one. -/
def word64 (value? : Option UInt64) : Bytes :=
  value?.elim [] bytes64

/-- The bytes of a disk number, if there is one. -/
def word32 (value? : Option UInt32) : Bytes :=
  value?.elim [] bytes32

/-! ### Payloads -/

/-- Whether the record has no value. -/
def isEmpty (z : Zip64) : Bool :=
  z.size?.isNone && z.compressedSize?.isNone && z.offset?.isNone && z.disk?.isNone

/-- The local payload. A value that is missing before one that is present is written as zero. -/
def localData (z : Zip64) : Bytes :=
  if z.isEmpty then []
  else
    let offset? := if z.disk?.isSome then some (z.offset?.getD 0) else z.offset?
    bytes64 (z.size?.getD 0) ++ bytes64 (z.compressedSize?.getD 0) ++ word64 offset? ++
      word32 z.disk?

/-- The central payload: the values that are present. -/
def centralData (z : Zip64) : Bytes :=
  word64 z.size? ++ word64 z.compressedSize? ++ word64 z.offset? ++ word32 z.disk?

/-! ### Reading -/

/-- The fault of a payload. -/
def malformed (reason : String) : Fault :=
  .malformedRecord recordId reason

/-- The eight-byte value at a position of a payload. -/
def wordAt (payload : Bytes) (position : Nat) : UInt64 :=
  UInt64.ofNat (Bytes.ofLE ((payload.drop position).take 8))

/-- The disk number at a position of a payload. -/
def diskAt (payload : Bytes) (position : Nat) : UInt32 :=
  UInt32.ofNat (Bytes.ofLE ((payload.drop position).take 4))

/-- The values of a payload in which exactly the flagged ones are present. -/
def ofFlags (payload : Bytes) (hasSize hasCompressedSize hasOffset hasDisk : Bool) : Zip64 :=
  let afterSize := if hasSize then 8 else 0
  let afterSizes := afterSize + if hasCompressedSize then 8 else 0
  let afterOffset := afterSizes + if hasOffset then 8 else 0
  { size? := if hasSize then some (wordAt payload 0) else none
    compressedSize? := if hasCompressedSize then some (wordAt payload afterSize) else none
    offset? := if hasOffset then some (wordAt payload afterSizes) else none
    disk? := if hasDisk then some (diskAt payload afterOffset) else none }

/-- The record of a local payload. -/
def ofLocal (payload : Bytes) : Except Fault Zip64 :=
  match payload.length with
  | 0 => .ok {}
  | 16 => .ok (ofFlags payload true true false false)
  | 24 => .ok (ofFlags payload true true true false)
  | 28 => .ok (ofFlags payload true true true true)
  | n => .error (malformed s!"local payload must be 0, 16, 24 or 28 bytes, found {n}")

/-- The record of a central payload, its values being taken in order. -/
def ofCentral (payload : Bytes) : Except Fault Zip64 :=
  let words := min (payload.length / 8) 3
  let rest := payload.length - 8 * words
  if rest = 0 ∨ rest = 4 then
    .ok { ofFlags payload (0 < words) (1 < words) (2 < words) (rest = 4) with
      rawCentral? := some payload }
  else
    .error (malformed s!"central payload of {payload.length} bytes is not 8k or 8k+4 with k <= 3")

/-- Reads the central payload again, now that it is known which values it has. A payload of another
length is refused. -/
def reparseCentral (z : Zip64) (hasSize hasCompressedSize hasOffset hasDisk : Bool) :
    Outcome Zip64 Unit :=
  match z.rawCentral? with
  | none => (.ok (), z)
  | some raw =>
    let wanted := 8 * hasSize.toNat + 8 * hasCompressedSize.toNat + 8 * hasOffset.toNat +
      4 * hasDisk.toNat
    if raw.length = wanted then
      (.ok (), { ofFlags raw hasSize hasCompressedSize hasOffset hasDisk with
        rawCentral? := some raw })
    else
      (.error (malformed
        s!"central payload is {raw.length} bytes, header fields call for {wanted}"), z)

/-- Reads a local payload; one of a wrong length leaves an empty record. -/
def readLocal (payload : Bytes) : Outcome Zip64 Unit :=
  Outcome.ofExcept {} (ofLocal payload)

instance : Record Zip64 where
  id _ := recordId
  localData := localData
  centralData := centralData
  parseLocal z buf offset length := inSpan z buf offset length readLocal
  parseCentral z buf offset length := inSpan z buf offset length fun payload =>
    Outcome.ofExcept z (ofCentral payload)

end Zip64

end ZipArchive.Extra
