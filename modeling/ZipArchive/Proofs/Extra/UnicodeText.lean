import ZipArchive.Extra.UnicodeText
import ZipArchive.Proofs.Charset.Utf8
import ZipArchive.Proofs.LittleEndian

/-!
# Laws of Unicode paths and comments

A payload has one form, so that what is read is written again: `payload_of_ofPayload`. The record of
a text gives this text for the bytes that it was made for, and for all that have their checksum:
`textFor?_ofText`, `textFor?_ofText_eq`.
-/

namespace ZipArchive.Extra.UnicodeText

/-- A payload that is read is written again. -/
theorem payload_of_ofPayload {id : UInt16} {bs : Bytes} {u : UnicodeText}
    (h : ofPayload id bs = .ok u) : u.payload = bs := by
  rw [ofPayload.eq_def] at h
  split at h
  case h_1 version c₀ c₁ c₂ c₃ text =>
    split at h
    case isTrue hversion =>
      obtain rfl := Except.ok.inj h
      have hchecksum : Bytes.toLE 4 (Bytes.ofLE [c₀, c₁, c₂, c₃]) = [c₀, c₁, c₂, c₃] :=
        Bytes.toLE_ofLE_of_length rfl
      rw [payload, Bytes.bytes32_ofNat, hchecksum, hversion]
      rfl
    case isFalse => cases h
  case h_2 => cases h

/-- The record of a text is about the bytes with the checksum of those that it was made for. -/
theorem textFor?_ofText_eq (text : String) (own raw : Bytes) :
    (ofText text own).textFor? raw = if crc32 raw = crc32 own then some text else none := by
  have hdecode : Charset.utf8.decode (Charset.Utf8.ofText text.toList) = .ok text.toList :=
    Charset.decode_eq_ok_iff.2 (Charset.Utf8.reads_ofText .ascii text.toList)
  simp only [textFor?, ofText, hdecode, String.ofList_toList]

/-- The record of a text is about the bytes that it was made for. -/
theorem textFor?_ofText (text : String) (raw : Bytes) :
    (ofText text raw).textFor? raw = some text := by
  rw [textFor?_ofText_eq, if_pos rfl]

end ZipArchive.Extra.UnicodeText
