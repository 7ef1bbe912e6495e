import ZipArchive.Proofs.Extra.Refusals
import ZipArchive.Proofs.Extra.Remainder
import ZipArchive.Proofs.FixedWidth

/-!
# Records look at nothing but their payload

A payload is one of many in a buffer, and what stands before or behind it belongs to others. A
record of this library answers to a span of a buffer as it does to the bytes of that span by
themselves, be it that it reads them or that it finds fault with them, and a span that leaves the
buffer is refused before anything of the record is changed: `Field.parse_looks_at_span`. The marker
of a jar is no part of this, since it looks at the length only.

Whether a span leaves the buffer is a matter of unbounded numbers. Machine words, whose sum may be
no word, lead to the same span: `Buffer.spanAt_eq_span`.
-/

namespace ZipArchive

namespace Buffer

/-- Machine words lead to the same span as unbounded numbers. -/
theorem spanAt_eq_span {buf : Array UInt8} (hbuf : buf.size < 2 ^ 64) (offset length : Position) :
    Bytes.spanAt buf.toList offset length = span buf offset.toNat length.toNat := by
  rw [span_eq_span_toList]
  exact Bytes.spanAt_eq_span hbuf offset length

/-- The bytes of a span, taken out of the buffer, are a span from the start of what was taken. -/
theorem span_extract {buf : Array UInt8} {offset length : ℕ} (h : offset + length ≤ buf.size) :
    span (buf.extract offset (offset + length)) 0 length = span buf offset length := by
  have hsize : (buf.extract offset (offset + length)).size = length := by
    rw [Array.size_extract, Nat.min_eq_left h, Nat.add_sub_cancel_left]
  rw [span, span, hsize, Nat.zero_add, if_pos (Nat.le_refl length), if_pos h, Array.extract_extract,
    Nat.add_zero, Nat.min_self]

end Buffer

namespace Extra

variable {κ : Type} {place : Place} {buf other : Array UInt8} {offset start length : ℕ}

private theorem inSpan_of_size_lt {ρ : Type} (r : ρ) (read : Bytes → Outcome ρ Unit)
    (h : buf.size < offset + length) :
    inSpan r buf offset length read =
      (.error (.bounds offset length (buf.size - offset)), r) := by
  rw [inSpan, Buffer.span, if_neg (Nat.not_le.2 h)]

namespace Field

variable [Record κ] {f : Field κ}

/-- A payload that leaves the buffer is refused for that or for being too short, and the record
stays as it was. -/
theorem ReadsSpan.parse_of_size_lt (hread : f.ReadsSpan place) (h : buf.size < offset + length) :
    ∃ e, f.parse place buf offset length = (.error e, f) ∧
      (e = .bounds offset length (buf.size - offset) ∨
        ∃ reason, e = .malformedRecord f.id reason) := by
  obtain ⟨least, short, read, hparse⟩ := hread
  rw [hparse]
  split
  case isTrue => exact ⟨_, rfl, .inr ⟨_, rfl⟩⟩
  case isFalse => exact ⟨_, inSpan_of_size_lt f read h, .inl rfl⟩

/-- A payload that lies in the buffer is refused as malformed only, so that no byte is looked for
where there is none. -/
theorem failsAs_parse (hf : f.IsBuiltin) (place : Place) (h : offset + length ≤ buf.size) :
    FailsAs f.id (f.parse place buf offset length).1 := by
  obtain ⟨payload, hspan, rfl⟩ :
      ∃ payload, Buffer.span buf offset length = .ok payload ∧ payload.length = length :=
    ⟨_, Buffer.span_eq_window h, by rw [Buffer.length_window h, Nat.add_sub_cancel_left]⟩
  rw [parse_of_span hf hspan]
  exact failsAs_read hf place payload

/-- A record of this library looks at nothing but the bytes of the given span. Where the span leaves
the buffer, it is refused and the record stays as it was. Where it does not, the record answers as
it does to its bytes by themselves, and to any other span of the same bytes, and finds no fault but
with the payload. -/
theorem parse_looks_at_span (hf : f.IsBuiltin) (hmarker : ∀ m, f.unboxed ≠ .jarMarker m)
    (place : Place) (buf : Array UInt8) (offset length : ℕ) :
    (buf.size < offset + length →
      ∃ e, f.parse place buf offset length = (.error e, f) ∧
        (e = .bounds offset length (buf.size - offset) ∨
          ∃ reason, e = .malformedRecord f.id reason)) ∧
    (offset + length ≤ buf.size →
      f.parse place buf offset length =
        f.parse place (buf.extract offset (offset + length)) 0 length ∧
      (∀ e, (f.parse place buf offset length).1 = .error e →
        ∃ reason, e = .malformedRecord f.id reason) ∧
      ∀ (other : Array UInt8) (start : ℕ), start + length ≤ other.size →
        other.extract start (start + length) = buf.extract offset (offset + length) →
          f.parse place other start length = f.parse place buf offset length) := by
  have hread := readsSpan hf hmarker place
  refine ⟨hread.parse_of_size_lt, fun hfits => ⟨?_, failsAs_parse hf place hfits, ?_⟩⟩
  · exact hread.parse_eq_parse (Buffer.span_extract hfits).symm
  · intro other start hother hsame
    refine hread.parse_eq_parse ?_
    rw [← Buffer.span_extract hother, hsame, Buffer.span_extract hfits]

/-- A buffer with the payload of a timestamp, one byte before it and four behind. -/
def sampleBuffer : Array UInt8 :=
  #[9, 3, 0xE8, 3, 0, 0, 0xD0, 7, 0, 0]

/-- The payload is refused for a time that it lacks, although the bytes behind it would do, as it is
by itself, and so is one that starts at the largest word. -/
theorem parse_looks_at_span_sampleBuffer :
    let time : Field Empty := timestamp { modify? := some 7 }
    time.IsBuiltin ∧ (∀ m, time.unboxed ≠ .jarMarker m) ∧
      time.parse .localHeader sampleBuffer 1 5 = time.parse .localHeader #[3, 0xE8, 3, 0, 0] 0 5 ∧
      time.parse .localHeader #[3, 0xE8, 3, 0, 0] 0 5 =
        (.error (.malformedRecord 0x5455 "flagged time runs past the payload"), time) ∧
      ∃ e, time.parse .localHeader sampleBuffer (2 ^ 64 - 1) 5 = (.error e, time) := by
  intro time
  have hmarker : ∀ m, time.unboxed ≠ .jarMarker m := nofun
  have hinside := (parse_looks_at_span (f := time) trivial hmarker .localHeader sampleBuffer 1 5).2
  have houtside :=
    (parse_looks_at_span (f := time) trivial hmarker .localHeader sampleBuffer (2 ^ 64 - 1) 5).1
  obtain ⟨e, he, -⟩ := houtside (by decide)
  exact ⟨trivial, hmarker, (hinside (by decide)).1, by decide +kernel, e, he⟩

/-- The marker of a jar is found to be there without a look at the buffer. -/
example : (jarMarker {} : Field Empty).parse .localHeader #[] 7 0 = (.ok (), jarMarker {}) := rfl

end Field

end Extra

end ZipArchive
