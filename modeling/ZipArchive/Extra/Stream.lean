import ZipArchive.Extra.Registry

/-!
# Extra field streams

In a header, records stand one behind the other: id, length of the payload and payload, two bytes
for each of the numbers and nothing in between or behind. `slots` cuts bytes into records as far as
these are complete, `parse` reads each of them, and `merge` writes records. What is left behind the
last complete record is an error or kept as it is, as the caller wants.
-/

namespace ZipArchive.Extra

/-- What is done about bytes that form no record. -/
inductive Remainder where
  /-- They are an error. -/
  | refuse
  /-- They are kept. -/
  | keep
deriving DecidableEq, Repr, Inhabited

/-- The place of a record in a stream. -/
structure Slot where
  /-- The id. -/
  id : UInt16
  /-- Where the payload starts. -/
  offset : Nat
  /-- The length of the payload. -/
  length : Nat
deriving DecidableEq, Repr

/-- The complete records of a stream, `start` bytes being before it, and the bytes behind them. -/
def slots (start : Nat) (stream : Bytes) : List Slot × Bytes :=
  match stream with
  | i₀ :: i₁ :: n₀ :: n₁ :: rest =>
    let length := Bytes.ofLE [n₀, n₁]
    if (rest.take length).length = length then
      let (more, tail) := slots (start + 4 + length) (rest.drop length)
      ({ id := UInt16.ofNat (Bytes.ofLE [i₀, i₁]), offset := start + 4, length } :: more, tail)
    else ([], stream)
  | _ => ([], stream)
termination_by stream.length
decreasing_by simp only [List.length_drop, List.length_cons]; omega

variable {κ : Type} [Record κ]

/-- Reads the payload at a slot into a field. -/
def Slot.fill (place : Place) (buf : Array UInt8) (slot : Slot) (f : Field κ) :
    Except Fault (Field κ) :=
  match f.parse place buf slot.offset slot.length with
  | (.ok (), g) => .ok g
  | (.error e, _) => .error e

/-- The left-over bytes of a stream as a field for a header. -/
def Leftover.ofBytes (place : Place) (bs : Bytes) : Leftover :=
  match place with
  | .localHeader => { localCopy := bs }
  | .central => { centralCopy? := some bs }

/-- The records of a stream that belongs to a header. -/
def Registry.parse (reg : Registry κ) (place : Place) (remainder : Remainder) (data : Bytes) :
    Except Fault (List (Field κ)) := do
  let (records, tail) := slots 0 data
  let buf := data.toArray
  let fields ← records.mapM fun slot => slot.fill place buf (reg.create slot.id)
  if tail.isEmpty then return fields
  else
    match remainder with
    | .refuse => throw (.unparseableTrailingBytes (data.length - tail.length) tail.length)
    | .keep => return fields ++ [.leftover (.ofBytes place tail)]

/-- The bytes of a field in a stream. Bytes that form no record are written as they are. -/
def Field.toStream (place : Place) (f : Field κ) : Except Fault Bytes :=
  let payload := f.data place
  if f.isLeftover then .ok payload
  else if payload.length ≤ 65535 then
    .ok (bytes16 f.id ++ Bytes.toLE 2 payload.length ++ payload)
  else .error (.malformedRecord f.id s!"payload of {payload.length} bytes exceeds 65535")

/-- The stream of records for a header. -/
def merge (place : Place) (fields : List (Field κ)) : Except Fault Bytes :=
  List.flatten <$> fields.mapM (Field.toStream place)

end ZipArchive.Extra
