import ZipArchive.Extra.Record

/-!
# Extended timestamps

The record with the times of modification, access and creation in seconds since the start of 1970.
A payload starts with a byte of flags, one bit for each time, and a local payload goes on with the
times that are flagged. A central payload has the time of modification at most, whatever its flags
say of the other two, and its flags are kept as they were read.

`ofLocal` and `withCentral` say what a payload tells. In a buffer it is read where it stands, by a
cursor that goes from time to time and has to come to the end of the payload: `localAt` and
`centralAt`.
-/

namespace ZipArchive.Extra

/-- An extended timestamp. -/
structure Timestamp where
  /-- The flags of the local payload that was read; the bits of the times follow the times. -/
  readFlags : UInt8 := 0
  /-- The flags of the central payload. -/
  centralFlags : UInt8 := 0
  /-- The time of the last modification. -/
  modify? : Option Int32 := none
  /-- The time of the last access. -/
  access? : Option Int32 := none
  /-- The time of creation. -/
  create? : Option Int32 := none
deriving DecidableEq, Repr, Inhabited

namespace Timestamp

/-- The id of the record. -/
def recordId : UInt16 := 0x5455

/-- The flag of the time of modification. -/
def modifyBit : UInt8 := 1

/-- The flag of the time of access. -/
def accessBit : UInt8 := 2

/-- The flag of the time of creation. -/
def createBit : UInt8 := 4

/-- Sets or clears a flag. -/
def setBit (flags bit : UInt8) (on : Bool) : UInt8 :=
  if on then flags ||| bit else flags &&& ~~~bit

/-! ### Changing times -/

/-- Sets or clears the time of modification. -/
def setModify (t : Timestamp) (time? : Option Int32) : Timestamp :=
  { t with modify? := time?, centralFlags := setBit t.centralFlags modifyBit time?.isSome }

/-- Sets or clears the time of access. -/
def setAccess (t : Timestamp) (time? : Option Int32) : Timestamp :=
  { t with access? := time?, centralFlags := setBit t.centralFlags accessBit time?.isSome }

/-- Sets or clears the time of creation. -/
def setCreate (t : Timestamp) (time? : Option Int32) : Timestamp :=
  { t with create? := time?, centralFlags := setBit t.centralFlags createBit time?.isSome }

/-! ### Payloads -/

/-- The bytes of a time, if there is one. -/
def timeBytes (time? : Option Int32) : Bytes :=
  time?.elim [] fun time => bytes32 time.toUInt32

/-- The flags of the local payload: a bit for each time that is present, and the other bits as they
were read. -/
def flags (t : Timestamp) : UInt8 :=
  setBit (setBit (setBit t.readFlags modifyBit t.modify?.isSome) accessBit t.access?.isSome)
    createBit t.create?.isSome

/-- The local payload. -/
def localData (t : Timestamp) : Bytes :=
  t.flags :: (timeBytes t.modify? ++ timeBytes t.access? ++ timeBytes t.create?)

/-- The central payload. -/
def centralData (t : Timestamp) : Bytes :=
  t.centralFlags ::
    if t.centralFlags &&& modifyBit = 0 then [] else timeBytes t.modify?

/-! ### What payloads tell -/

/-- The fault of a payload. -/
def malformed (reason : String) : Fault :=
  .malformedRecord recordId reason

/-- Takes a time off the front, if the flags say that it is there. -/
def takeTime (flags bit : UInt8) (bs : Bytes) : Except Fault (Option Int32 × Bytes) :=
  if flags &&& bit = 0 then .ok (none, bs)
  else if bs.length < 4 then .error (malformed "flagged time runs past the payload")
  else .ok (some (UInt32.ofNat (Bytes.ofLE (bs.take 4))).toInt32, bs.drop 4)

/-- Refuses bytes that are left over. -/
def atEnd (bs : Bytes) : Except Fault Unit :=
  if bs.isEmpty then .ok ()
  else .error (malformed s!"{bs.length} unexpected trailing bytes")

/-- The record of a local payload. -/
def ofLocal : Bytes → Except Fault Timestamp
  | [] => .error (malformed "empty payload")
  | flags :: bs => do
    let (modify?, bs) ← takeTime flags modifyBit bs
    let (access?, bs) ← takeTime flags accessBit bs
    let (create?, bs) ← takeTime flags createBit bs
    atEnd bs
    return { readFlags := flags, centralFlags := flags, modify?, access?, create? }

/-- The record after reading a central payload. The times of access and creation, the local flags,
and without a time of modification that time too, are kept. -/
def withCentral (t : Timestamp) : Bytes → Except Fault Timestamp
  | [] => .error (malformed "empty payload")
  | flags :: bs => do
    let (modify?, bs) ← takeTime flags modifyBit bs
    atEnd bs
    return { t with centralFlags := flags, modify? := modify? <|> t.modify? }

/-! ### Reading in a buffer -/

/-- Reads the time at the cursor, if the flags say that it is there, in a payload up to `stop`. The
cursor moves behind it. -/
def timeAt (buf : Array UInt8) (stop : Nat) (flags bit : UInt8) (cursor : Nat) :
    Except Fault (Option Int32 × Nat) :=
  if flags &&& bit = 0 then .ok (none, cursor)
  else if stop < cursor + 4 then .error (malformed "flagged time runs past the payload")
  else do
    let time ← Buffer.span buf cursor 4
    return (some (UInt32.ofNat (Bytes.ofLE time)).toInt32, cursor + 4)

/-- Refuses a cursor that did not come to the end of the payload. -/
def endAt (stop cursor : Nat) : Except Fault Unit :=
  if cursor = stop then .ok ()
  else .error (malformed s!"{stop - cursor} unexpected trailing bytes")

/-- The record of the local payload from `start` to `stop`. -/
def localAt (buf : Array UInt8) (start stop : Nat) : Except Fault Timestamp :=
  if start = stop then .error (malformed "empty payload")
  else do
    let flags ← Buffer.byte buf start
    let (modify?, cursor) ← timeAt buf stop flags modifyBit (start + 1)
    let (access?, cursor) ← timeAt buf stop flags accessBit cursor
    let (create?, cursor) ← timeAt buf stop flags createBit cursor
    endAt stop cursor
    return { readFlags := flags, centralFlags := flags, modify?, access?, create? }

/-- The record after reading the central payload from `start` to `stop`. -/
def centralAt (t : Timestamp) (buf : Array UInt8) (start stop : Nat) : Except Fault Timestamp :=
  if start = stop then .error (malformed "empty payload")
  else do
    let flags ← Buffer.byte buf start
    let (modify?, cursor) ← timeAt buf stop flags modifyBit (start + 1)
    endAt stop cursor
    return { t with centralFlags := flags, modify? := modify? <|> t.modify? }

instance : Record Timestamp where
  id _ := recordId
  localData := localData
  centralData := centralData
  parseLocal t buf offset length := inPlace t buf offset length (localAt buf)
  parseCentral t buf offset length := inPlace t buf offset length (t.centralAt buf)

end Timestamp

end ZipArchive.Extra
