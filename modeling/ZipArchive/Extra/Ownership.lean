import ZipArchive.Extra.Record

/-!
# Unix ownership

The record with the ids of the owner and of the group of a file. An id is a little-endian number of
any length, kept as the bytes that were read, so that zeros at its high end are written again. The
central payload is empty unless one was read, and that one is written again.

`withLocal` says what a local payload tells. In a buffer it is read where it stands, by a cursor
that goes from id to id and has to come to the end of the payload: `localAt`.
-/

namespace ZipArchive.Extra

/-- The least number of little-endian bytes, one at least, for a number. -/
def minimalLE (n : Nat) : Bytes :=
  if n < 256 then [UInt8.ofNat n]
  else UInt8.ofNat (n % 256) :: minimalLE (n / 256)

/-- The owner and the group of a file. -/
structure Ownership where
  /-- The version of the record. -/
  version : UInt8 := 1
  /-- The bytes of the id of the owner. -/
  userBytes : Bytes
  /-- The bytes of the id of the group. -/
  groupBytes : Bytes
  /-- The central payload that was read. -/
  centralCopy? : Option Bytes := none
deriving DecidableEq, Repr

namespace Ownership

/-- The id of the record. -/
def recordId : UInt16 := 0x7875

/-- The record of an owner and a group. -/
def ofIds (user group : UInt64) : Ownership where
  userBytes := minimalLE user.toNat
  groupBytes := minimalLE group.toNat

instance : Inhabited Ownership := ⟨ofIds 1000 1000⟩

/-- The number of an id, if it has 64 bits at most. -/
def number? (bs : Bytes) : Option UInt64 :=
  go 0 0 bs
where
  /-- Adds the bytes from a position of the id on to the number of the bytes before it. A zero adds
  nothing wherever it stands, and any other byte has to be one of the first eight. -/
  go (number : UInt64) (position : Nat) : Bytes → Option UInt64
    | [] => some number
    | b :: bs =>
      if b = 0 then go number (position + 1) bs
      else if 8 ≤ position then none
      else go (number ||| b.toUInt64 <<< UInt64.ofNat (8 * position)) (position + 1) bs

/-- The id of the owner. -/
def user? (o : Ownership) : Option UInt64 := number? o.userBytes

/-- The id of the group. -/
def group? (o : Ownership) : Option UInt64 := number? o.groupBytes

/-- Changes the owner. -/
def setUser (o : Ownership) (id : UInt64) : Ownership :=
  { o with userBytes := minimalLE id.toNat }

/-- Changes the group. -/
def setGroup (o : Ownership) (id : UInt64) : Ownership :=
  { o with groupBytes := minimalLE id.toNat }

/-! ### Payloads -/

/-- An id with its length before it. -/
def sized (id : Bytes) : Bytes :=
  UInt8.ofNat id.length :: id

/-- The local payload. -/
def localData (o : Ownership) : Bytes :=
  o.version :: (sized o.userBytes ++ sized o.groupBytes)

/-- The central payload. -/
def centralData (o : Ownership) : Bytes :=
  o.centralCopy?.getD []

/-! ### What payloads tell -/

/-- The fault of a payload. -/
def malformed (reason : String) : Fault :=
  .malformedRecord recordId reason

/-- Takes an id with its length off the front. -/
def takeId : Bytes → Except Fault (Bytes × Bytes)
  | [] => .error (malformed "missing id size")
  | size :: bs =>
    if bs.length < size.toNat then
      .error (malformed s!"id of {size.toNat} bytes runs past the payload")
    else .ok (bs.take size.toNat, bs.drop size.toNat)

/-- The record after reading a local payload. The central payload is kept. -/
def withLocal (o : Ownership) : Bytes → Except Fault Ownership
  | [] => .error (malformed "empty payload")
  | version :: bs => do
    let (user, bs) ← takeId bs
    let (group, bs) ← takeId bs
    if bs.isEmpty then
      return { o with version, userBytes := user, groupBytes := group }
    else throw (malformed s!"{bs.length} unexpected trailing bytes")

/-! ### Reading in a buffer -/

/-- Reads the id at the cursor with its length before it, in a payload up to `stop`. The cursor moves
behind it. -/
def idAt (buf : Array UInt8) (stop cursor : Nat) : Except Fault (Bytes × Nat) :=
  if stop ≤ cursor then .error (malformed "missing id size")
  else do
    let size ← Buffer.byte buf cursor
    if stop < cursor + 1 + size.toNat then
      throw (malformed s!"id of {size.toNat} bytes runs past the payload")
    else
      let id ← Buffer.span buf (cursor + 1) size.toNat
      return (id, cursor + 1 + size.toNat)

/-- The record after reading the local payload from `start` to `stop`. The central payload is
kept. -/
def localAt (o : Ownership) (buf : Array UInt8) (start stop : Nat) : Except Fault Ownership :=
  if start = stop then .error (malformed "empty payload")
  else do
    let version ← Buffer.byte buf start
    let (user, cursor) ← idAt buf stop (start + 1)
    let (group, cursor) ← idAt buf stop cursor
    if cursor = stop then
      return { o with version, userBytes := user, groupBytes := group }
    else throw (malformed s!"{stop - cursor} unexpected trailing bytes")

instance : Record Ownership where
  id _ := recordId
  localData := localData
  centralData := centralData
  parseLocal o buf offset length := inPlace o buf offset length (o.localAt buf)
  parseCentral o buf offset length := inSpan o buf offset length fun payload =>
    (.ok (), { o with centralCopy? := some payload })

end Ownership

end ZipArchive.Extra
