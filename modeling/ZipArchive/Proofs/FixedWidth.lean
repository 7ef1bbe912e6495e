import ZipArchive.Proofs.LittleEndian
import ZipArchive.Proofs.Overwrite

/-!
# Numbers of fixed width in a buffer

The end of a field is a sum of machine words, and where that sum is not a word the field lies past
the end of any buffer. So words lead to the same span as unbounded numbers do,
`Bytes.spanAt_eq_span`, and a number is stored just where one can be read, in the place of as many
bytes: `Width.put_eq_overwrite`. A field is told by its own bytes, `Bytes.span_congr`, so that
fields which do not meet the stored one are read as before. All this is `Width.put_replaces_span`.
-/

namespace ZipArchive

/-! ### Sums of words -/

/-- A sum is less than its first word just if it is too large for a word. -/
theorem Position.add_lt_left_iff {a b : Position} : a + b < a ↔ 2 ^ 64 ≤ a.toNat + b.toNat := by
  have ha := a.toNat_lt
  have hb := b.toNat_lt
  rw [UInt64.lt_iff_toNat_lt, UInt64.toNat_add]
  omega

private theorem Position.add?_eq_none_iff {a b : Position} :
    add? a b = none ↔ 2 ^ 64 ≤ a.toNat + b.toNat := by
  rw [← add_lt_left_iff, add?]
  split
  case isTrue h => exact iff_of_true rfl h
  case isFalse h => exact iff_of_false (by simp) h

private theorem Position.add?_eq_some_iff {a b c : Position} :
    add? a b = some c ↔ a.toNat + b.toNat = c.toNat := by
  have hc := c.toNat_lt
  rw [add?]
  split
  case isTrue h =>
    have hlarge := add_lt_left_iff.1 h
    exact iff_of_false (by simp) (by omega)
  case isFalse h =>
    have hsmall : a.toNat + b.toNat < 2 ^ 64 := Nat.not_le.1 (mt add_lt_left_iff.2 h)
    rw [Option.some_inj, ← UInt64.toNat_inj, UInt64.toNat_add, Nat.mod_eq_of_lt hsmall]

namespace Bytes

/-! ### Spans -/

/-- Machine words lead to the same span as unbounded numbers. -/
theorem spanAt_eq_span {buf : Bytes} (hbuf : buf.length < 2 ^ 64) (offset length : Position) :
    buf.spanAt offset length = buf.span offset.toNat length.toNat := by
  rw [spanAt, span]
  cases h : Position.add? offset length with
  | none =>
    have hpast := Position.add?_eq_none_iff.1 h
    rw [if_neg (by omega)]
    rfl
  | some stop =>
    have hstop := Position.add?_eq_some_iff.1 h
    have hordered : offset ≤ stop := UInt64.le_iff_toNat_le.2 (by omega)
    have htake : (buf.take stop.toNat).drop offset.toNat =
        (buf.drop offset.toNat).take length.toNat := by
      rw [List.drop_take, ← hstop, Nat.add_sub_cancel_left]
    rw [Option.bind_some, slice?, hstop, htake]
    by_cases hfits : stop.toNat ≤ buf.length
    · rw [if_pos ⟨hordered, hfits⟩, if_pos hfits]
    · rw [if_neg fun hboth => hfits hboth.2, if_neg hfits]

/-- A span is told by the length of the buffer and the bytes in it. -/
theorem span_congr {a b : Bytes} {offset length : ℕ} (hlength : a.length = b.length)
    (h : ∀ i, offset ≤ i → i < offset + length → a[i]? = b[i]?) :
    a.span offset length = b.span offset length := by
  have hbytes : (a.drop offset).take length = (b.drop offset).take length := by
    refine List.ext_getElem? fun i => ?_
    rw [List.getElem?_take, List.getElem?_take, List.getElem?_drop, List.getElem?_drop]
    split
    case isTrue hi => exact h (offset + i) (Nat.le_add_right ..) (Nat.add_lt_add_left hi _)
    case isFalse => rfl
  rw [span, span, hlength, hbytes]

/-- The bytes that were written over others are those of their span. -/
theorem span_of_overwrite {buf data bs : Bytes} {offset : ℕ}
    (h : buf.overwrite offset data = .ok bs) : bs.span offset data.length = .ok data := by
  obtain ⟨front, old, back, -, rfl, -, rfl⟩ := exists_append_of_overwrite h
  rw [span_eq_ok_iff, List.append_assoc, List.drop_left, List.take_left]
  refine ⟨?_, rfl⟩
  simp only [List.length_append]
  omega

/-- No byte outside a span changes when bytes are written over it. -/
theorem getElem?_of_overwrite {buf data bs : Bytes} {offset : ℕ}
    (h : buf.overwrite offset data = .ok bs) {i : ℕ}
    (hi : i < offset ∨ offset + data.length ≤ i) : bs[i]? = buf[i]? := by
  obtain ⟨front, old, back, rfl, rfl, hlength, rfl⟩ := exists_append_of_overwrite h
  rw [List.append_assoc, List.append_assoc]
  rcases hi with hi | hi
  · rw [List.getElem?_append_left hi, List.getElem?_append_left hi]
  · rw [List.getElem?_append_right (by omega), List.getElem?_append_right (by omega),
      List.getElem?_append_right (by omega), List.getElem?_append_right (by omega), hlength]

end Bytes

/-! ### Fields -/

namespace Width

private theorem toNat_bytes (w : Width) : w.bytes.toNat = w.size := by
  cases w <;> rfl

variable {buf : Bytes}

private theorem read_eq_map_span (w : Width) (hbuf : buf.length < 2 ^ 64) (offset : Position) :
    w.read buf offset = Bytes.ofLE <$> buf.span offset.toNat w.size := by
  rw [read, Bytes.spanAt_eq_span hbuf, toNat_bytes]

/-- A number is stored by writing its bytes over others. -/
theorem put_eq_overwrite (w : Width) (n : ℕ) (hbuf : buf.length < 2 ^ 64) (offset : Position) :
    w.put n buf offset =
      Outcome.ofExcept buf (buf.overwrite offset.toNat (Bytes.toLE w.size n)) := by
  rw [put, Bytes.spanAt_eq_span hbuf, toNat_bytes, Bytes.span, Bytes.overwrite, Bytes.length_toLE]
  split
  case h_1 hspan =>
    split at hspan
    case isFalse => cases hspan
    case isTrue hfits =>
      -- the field ends in the buffer, so that its end is a word
      have hstop : (offset + w.bytes).toNat = offset.toNat + w.size := by
        rw [UInt64.toNat_add, toNat_bytes, Nat.mod_eq_of_lt (by omega)]
      rw [if_pos hfits, hstop, Outcome.ofExcept_ok]
  case h_2 hspan =>
    split at hspan
    case isTrue => cases hspan
    case isFalse hfits =>
      obtain rfl := Except.error.inj hspan
      rw [if_neg hfits, Outcome.ofExcept_error]

/-- A number is stored just where the field lies in the buffer, the end of the field being taken in
unbounded numbers. It is read back, the bytes outside the field are what they were, and so is every
field that does not meet it. Where the field leaves the buffer, nothing is changed, and storing a
number there is refused as reading one is. -/
theorem put_replaces_span (w : Width) {n : ℕ} (hn : n < 256 ^ w.size) {buf : Bytes}
    (hbuf : buf.length < 2 ^ 64) (offset : Position) :
    (offset.toNat + w.size ≤ buf.length →
      ∃ bs, w.put n buf offset = (.ok (), bs) ∧ w.read bs offset = .ok n ∧
        (∀ (v : Width) (other : Position),
          other.toNat + v.size ≤ offset.toNat ∨ offset.toNat + w.size ≤ other.toNat →
            v.read bs other = v.read buf other) ∧
        bs.length = buf.length ∧
        ∀ i, i < offset.toNat ∨ offset.toNat + w.size ≤ i → bs[i]? = buf[i]?) ∧
    (buf.length < offset.toNat + w.size →
      w.put n buf offset =
        (.error (.bounds offset.toNat w.size (buf.length - offset.toNat)), buf) ∧
      w.read buf offset = .error (.bounds offset.toNat w.size (buf.length - offset.toNat))) := by
  have hsize : (Bytes.toLE w.size n).length = w.size := Bytes.length_toLE ..
  rw [put_eq_overwrite w n hbuf, read_eq_map_span w hbuf]
  refine ⟨fun hfits => ?_, fun hpast => ?_⟩
  · obtain ⟨bs, hbs⟩ : ∃ bs, buf.overwrite offset.toNat (Bytes.toLE w.size n) = .ok bs := by
      rw [Bytes.overwrite, hsize, if_pos hfits]
      exact ⟨_, rfl⟩
    have hlength := Bytes.length_of_overwrite hbs
    have hread := Bytes.span_of_overwrite hbs
    have houtside : ∀ i, i < offset.toNat ∨ offset.toNat + w.size ≤ i → bs[i]? = buf[i]? := by
      intro i hi
      exact Bytes.getElem?_of_overwrite hbs (by rwa [hsize])
    refine ⟨bs, by rw [hbs, Outcome.ofExcept_ok], ?_, fun v other hother => ?_, hlength, houtside⟩
    · rw [read_eq_map_span w (hlength ▸ hbuf), ← hsize, hread]
      exact congrArg Except.ok ((Bytes.ofLE_toLE ..).trans (Nat.mod_eq_of_lt hn))
    · rw [read_eq_map_span v (hlength ▸ hbuf), read_eq_map_span v hbuf]
      exact congrArg _ (Bytes.span_congr hlength fun i hle hlt => houtside i (by omega))
  · rw [Bytes.overwrite, Bytes.span, hsize, if_neg (by omega), if_neg (by omega)]
    exact ⟨rfl, rfl⟩

/-- A header whose checksum field is filled in, and a field whose end wraps around to a place inside
the header. -/
theorem put_replaces_span_sampleHeader :
    let header : Bytes := [0x50, 0x4B, 0, 0, 0, 0, 8, 0]
    0xDEADBEEF < 256 ^ long.size ∧ header.length < 2 ^ 64 ∧
      (∃ bs, long.put 0xDEADBEEF header 2 = (.ok (), bs) ∧ long.read bs 2 = .ok 0xDEADBEEF ∧
        short.read bs 0 = short.read header 0 ∧ short.read bs 6 = short.read header 6 ∧
        bs.length = 8 ∧ bs[7]? = some 0) ∧
      long.put 0xDEADBEEF header 0xFFFFFFFFFFFFFFFE =
        (.error (.bounds 0xFFFFFFFFFFFFFFFE 4 0), header) := by
  intro header
  have hn : 0xDEADBEEF < 256 ^ long.size := by decide
  have hheader : header.length < 2 ^ 64 := by decide
  obtain ⟨bs, hput, hread, hother, hlength, houtside⟩ :=
    (put_replaces_span long hn hheader 2).1 (by decide)
  refine ⟨hn, hheader, ⟨bs, hput, hread, hother short 0 (.inl (by decide)),
    hother short 6 (.inr (by decide)), hlength, houtside 7 (.inr (by decide))⟩, ?_⟩
  have hoffset : (0xFFFFFFFFFFFFFFFE : Position).toNat = 0xFFFFFFFFFFFFFFFE := by decide
  have hnone : header.length - (0xFFFFFFFFFFFFFFFE : Position).toNat = 0 := by decide
  have hrefused := ((put_replaces_span long hn hheader 0xFFFFFFFFFFFFFFFE).2 (by decide)).1
  rwa [hnone, hoffset] at hrefused

end Width

end ZipArchive
