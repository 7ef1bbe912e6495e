import ZipArchive.Bytes.Basic

/-!
# Positions in machine words

Callers give the position of a field and its width as machine words. The end of the field is their
sum, and a sum that is too large for a word is past the end of any buffer. `spanAt` takes such an
end for what it is, and does not let it wrap around to a place inside the buffer.
-/

namespace ZipArchive

/-- A position in a buffer, or a number of bytes, as a machine word. -/
abbrev Position := UInt64

/-- The sum of two words, if it is a word. A sum that wraps around is less than its first word. -/
def Position.add? (a b : Position) : Option Position :=
  if a + b < a then none else some (a + b)

namespace Bytes

/-- The bytes from one position up to another, if the buffer reaches there. -/
def slice? (buf : Bytes) (start stop : Position) : Option Bytes :=
  if start ≤ stop ∧ stop.toNat ≤ buf.length then some ((buf.take stop.toNat).drop start.toNat)
  else none

/-- The bytes of `buf` from `offset` on, `length` of them. -/
def spanAt (buf : Bytes) (offset length : Position) : Except Fault Bytes :=
  match (Position.add? offset length).bind (buf.slice? offset) with
  | some bytes => .ok bytes
  | none => .error (.bounds offset.toNat length.toNat (buf.length - offset.toNat))

end Bytes

end ZipArchive
