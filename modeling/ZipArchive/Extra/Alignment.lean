import ZipArchive.Extra.Record

/-!
# Alignment requests

The record that asks for the data of an entry to start at a multiple of a number. Fifteen bits hold
the number and one says whether the compression method may be changed for it. In the local header
zeros follow, to move the data; the central payload has none.
-/

namespace ZipArchive.Extra

/-- A request for alignment. -/
structure Alignment where
  /-- What the position of the data should be a multiple of. -/
  alignment : UInt16 := 0
  /-- Whether the compression method may be changed. -/
  allowMethodChange : Bool := false
  /-- The number of zeros in the local header. -/
  padding : Nat := 0
  alignment_le : alignment ≤ 0x7FFF
deriving DecidableEq, Repr

namespace Alignment

/-- The id of the record. -/
def recordId : UInt16 := 0xA11E

instance : Inhabited Alignment := ⟨{ alignment_le := by decide }⟩

/-- The fault of a payload. -/
def malformed (reason : String) : Fault :=
  .malformedRecord recordId reason

/-- A request, if its number fits fifteen bits. -/
def ofParts (alignment : UInt16) (allowMethodChange : Bool) (padding : Nat) :
    Except Fault Alignment :=
  if h : alignment ≤ 0x7FFF then .ok { alignment, allowMethodChange, padding, alignment_le := h }
  else .error (malformed s!"alignment {alignment.toNat} exceeds 32767")

/-- The word of the request. -/
def word (a : Alignment) : UInt16 :=
  if a.allowMethodChange then a.alignment ||| 0x8000 else a.alignment

/-- The local payload. -/
def localData (a : Alignment) : Bytes :=
  bytes16 a.word ++ List.replicate a.padding 0

/-- The central payload. -/
def centralData (a : Alignment) : Bytes :=
  bytes16 a.word

theorem and_le (word : UInt16) : word &&& 0x7FFF ≤ 0x7FFF := by
  rw [UInt16.le_iff_toNat_le, UInt16.toNat_and]
  exact Nat.and_le_right

/-- The request with the word at the front of a payload, the padding being kept. -/
def withWord (a : Alignment) (payload : Bytes) : Alignment :=
  let word := UInt16.ofNat (Bytes.ofLE (payload.take 2))
  { alignment := word &&& 0x7FFF
    allowMethodChange := word &&& 0x8000 != 0
    padding := a.padding
    alignment_le := and_le word }

/-- The request with the word at the front of a payload in a buffer. A payload that is too short for
a word is refused before its span is looked at. -/
def wordAt (a : Alignment) (buf : Array UInt8) (offset length : Nat) : Except Fault Alignment :=
  if length < 2 then .error (malformed s!"need at least 2 bytes, found {length}")
  else do
    let _ ← Buffer.span buf offset length
    let word ← Buffer.span buf offset 2
    return a.withWord word

instance : Record Alignment where
  id _ := recordId
  localData := localData
  centralData := centralData
  parseLocal a buf offset length := Outcome.ofExcept a do
    let request ← a.wordAt buf offset length
    return { request with padding := length - 2 }
  parseCentral a buf offset length := Outcome.ofExcept a (a.wordAt buf offset length)

end Alignment

end ZipArchive.Extra
