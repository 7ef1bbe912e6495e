import ZipArchive.Bytes.Buffer
import ZipArchive.Bytes.LittleEndian

/-!
# Extra field records

An extra field record has an id and two payloads: one for the local header of its entry and one for
the central directory. `Record` is what any type of record has to offer. A payload is a span of a
buffer that holds much else. Some types take the payload out and read it by itself, `inSpan`; others
go along the buffer, from where the payload starts to where it stops, `inPlace`.
-/

namespace ZipArchive.Extra

/-- The header that a payload belongs to. -/
inductive Place where
  /-- The local header, before the data of the entry. -/
  | localHeader
  /-- The header in the central directory. -/
  | central
deriving DecidableEq, Repr, Inhabited

/-- Types of extra field records. -/
class Record (ρ : Type) where
  /-- The id of the record. -/
  id : ρ → UInt16
  /-- The payload for the local header. -/
  localData : ρ → Bytes
  /-- The payload for the central directory. -/
  centralData : ρ → Bytes := localData
  /-- Reads the payload of a local header, of the given length at the given offset of a buffer. -/
  parseLocal : ρ → Array UInt8 → Nat → Nat → Outcome ρ Unit
  /-- Reads the payload of a central header. -/
  parseCentral : ρ → Array UInt8 → Nat → Nat → Outcome ρ Unit := parseLocal

namespace Record

variable {ρ : Type} [Record ρ]

/-- The payload for a header. -/
def data (place : Place) (r : ρ) : Bytes :=
  match place with
  | .localHeader => localData r
  | .central => centralData r

/-- Reads the payload of a header. -/
def parse (place : Place) (r : ρ) (buf : Array UInt8) (offset length : Nat) : Outcome ρ Unit :=
  match place with
  | .localHeader => parseLocal r buf offset length
  | .central => parseCentral r buf offset length

end Record

/-- A record for which there is nothing to read. -/
instance : Record Empty where
  id r := r.elim
  localData r := r.elim
  parseLocal r := r.elim

/-- Reads the payload in a span of a buffer. A span that leaves the buffer is refused, and the
record stays as it was. -/
def inSpan {ρ : Type} (r : ρ) (buf : Array UInt8) (offset length : Nat)
    (read : Bytes → Outcome ρ Unit) : Outcome ρ Unit :=
  match Buffer.span buf offset length with
  | .ok payload => read payload
  | .error e => (.error e, r)

/-- Reads the payload in a span of a buffer where it stands, being told where it starts and where it
stops. A span that leaves the buffer is refused before that, and a record that refuses its payload
stays as it was. -/
def inPlace {ρ : Type} (r : ρ) (buf : Array UInt8) (offset length : Nat)
    (read : Nat → Nat → Except Fault ρ) : Outcome ρ Unit :=
  Outcome.ofExcept r do
    let _ ← Buffer.span buf offset length
    read offset (offset + length)

theorem inSpan_of_span {ρ : Type} {r : ρ} {buf : Array UInt8} {payload : Bytes}
    {offset length : Nat} {read : Bytes → Outcome ρ Unit}
    (h : Buffer.span buf offset length = .ok payload) :
    inSpan r buf offset length read = read payload := by
  simp [inSpan, h]

theorem inSpan_self {ρ : Type} (r : ρ) (payload : Bytes) (read : Bytes → Outcome ρ Unit) :
    inSpan r payload.toArray 0 payload.length read = read payload :=
  inSpan_of_span (by rw [Buffer.span_eq_span_toList, Bytes.span_self])

end ZipArchive.Extra
