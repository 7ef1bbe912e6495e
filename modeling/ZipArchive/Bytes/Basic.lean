import ZipArchive.Fault

/-!
# Byte strings and spans

A span is a run of bytes inside a buffer, given by offset and length. `span` hands out the bytes
of a span and `overwrite` replaces them; both answer exactly when the span lies in the buffer, in
unbounded arithmetic, and otherwise report how many bytes are left from the offset.
-/

namespace ZipArchive

/-- A finite byte string. -/
abbrev Bytes := List UInt8

namespace Bytes

/-- The bytes of `buf` from `offset` on, `length` of them. -/
def span (buf : Bytes) (offset length : Nat) : Except Fault Bytes :=
  if offset + length ≤ buf.length then .ok ((buf.drop offset).take length)
  else .error (.bounds offset length (buf.length - offset))

/-- `buf` with the bytes from `offset` on replaced by `data`, which has to fit. -/
def overwrite (buf : Bytes) (offset : Nat) (data : Bytes) : Except Fault Bytes :=
  if offset + data.length ≤ buf.length then
    .ok (buf.take offset ++ data ++ buf.drop (offset + data.length))
  else .error (.bounds offset data.length (buf.length - offset))

theorem span_eq_ok_iff {buf : Bytes} {offset length : Nat} {p : Bytes} :
    span buf offset length = .ok p ↔
      offset + length ≤ buf.length ∧ p = (buf.drop offset).take length := by
  unfold span
  split
  case isTrue h => simp [h, eq_comm]
  case isFalse h => simp [h]

theorem length_of_span {buf : Bytes} {offset length : Nat} {p : Bytes}
    (h : span buf offset length = .ok p) : p.length = length := by
  obtain ⟨hle, rfl⟩ := span_eq_ok_iff.1 h
  simp only [List.length_take, List.length_drop]
  omega

theorem span_self (buf : Bytes) : span buf 0 buf.length = .ok buf := by
  simp [span]

end Bytes

end ZipArchive
