import ZipArchive.Charset.Basic
import ZipArchive.Crc32
import ZipArchive.Extra.Record

/-!
# Unicode paths and comments

Two records carry the UTF-8 form of the name or of the comment of an entry beside the form in its
header. They hold the checksum of the bytes in the header, so that a text left over from an earlier
name is not taken for the present one: `textFor?`.
-/

namespace ZipArchive.Extra

/-- The UTF-8 form of a text, and the checksum of its form in the header. -/
structure UnicodeText where
  /-- The checksum of the bytes in the header. -/
  checksum : UInt32 := 0
  /-- The UTF-8 bytes of the text. -/
  text : Bytes := []
deriving DecidableEq, Repr, Inhabited

namespace UnicodeText

/-- The id of the record for a name. -/
def pathId : UInt16 := 0x7075

/-- The id of the record for a comment. -/
def commentId : UInt16 := 0x6375

/-- The record of a text whose bytes in the header are `raw`. -/
def ofText (text : String) (raw : Bytes) : UnicodeText where
  checksum := crc32 raw
  text := Charset.Utf8.ofText text.toList

/-- The text, if the record is about the bytes `raw` and holds UTF-8. -/
def textFor? (u : UnicodeText) (raw : Bytes) : Option String :=
  if crc32 raw = u.checksum then
    match Charset.utf8.decode u.text with
    | .ok text => some (String.ofList text)
    | .error _ => none
  else none

/-- The payload, the same in both headers. -/
def payload (u : UnicodeText) : Bytes :=
  1 :: (bytes32 u.checksum ++ u.text)

/-- The record with the given id of a payload: a version, a checksum and the text. -/
def ofPayload (id : UInt16) : Bytes → Except Fault UnicodeText
  | version :: c₀ :: c₁ :: c₂ :: c₃ :: text =>
    if version = 1 then
      .ok { checksum := UInt32.ofNat (Bytes.ofLE [c₀, c₁, c₂, c₃]), text }
    else .error (.malformedRecord id s!"unsupported version {version.toNat}")
  | short => .error (.malformedRecord id s!"need at least 5 bytes, found {short.length}")

/-- Reads the payload of the record with the given id. -/
def parse (id : UInt16) (u : UnicodeText) (buf : Array UInt8) (offset length : Nat) :
    Outcome UnicodeText Unit :=
  inSpan u buf offset length fun payload => Outcome.ofExcept u (ofPayload id payload)

end UnicodeText

end ZipArchive.Extra
