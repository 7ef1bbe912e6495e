import ZipArchive.Bytes.Basic
import ZipArchive.Proofs.Except

/-!
# Bytes written over others

Bytes are written over as many others when these lie in the buffer, and that splits the buffer into
what stands before them, the bytes themselves and what stands behind: `overwrite_append`,
`exists_append_of_overwrite`. `overwriteAll` writes any number of times into one buffer, which stays
as long as it is.
-/

namespace ZipArchive.Bytes

/-- Bytes written over as many others take their place. -/
theorem overwrite_append (front : Bytes) {old new : Bytes} (back : Bytes)
    (h : new.length = old.length) :
    (front ++ old ++ back).overwrite front.length new = .ok (front ++ new ++ back) := by
  have hfits : front.length + new.length ≤ (front ++ old ++ back).length := by
    simp only [List.length_append]
    omega
  have hback : (front ++ old ++ back).drop (front.length + new.length) = back := by
    rw [h, ← List.length_append, List.drop_left]
  have hfront : (front ++ old ++ back).take front.length = front := by
    rw [List.append_assoc, List.take_left]
  rw [overwrite, if_pos hfits, hback, hfront]

/-- Where bytes can be written over others, these split the buffer. -/
theorem exists_append_of_overwrite {buf data bs : Bytes} {offset : Nat}
    (h : buf.overwrite offset data = .ok bs) :
    ∃ front old back, buf = front ++ old ++ back ∧ front.length = offset ∧
      data.length = old.length ∧ bs = front ++ data ++ back := by
  rw [overwrite] at h
  split at h
  case isFalse => cases h
  case isTrue hfits =>
    refine ⟨buf.take offset, (buf.drop offset).take data.length,
      buf.drop (offset + data.length), ?_, ?_, ?_, (Except.ok.inj h).symm⟩
    · rw [← List.drop_drop, List.append_assoc, List.take_append_drop, List.take_append_drop]
    · exact List.length_take_of_le (by omega)
    · rw [List.length_take, List.length_drop]
      omega

private theorem le_length_of_overwrite {buf data bs : Bytes} {offset : Nat}
    (h : buf.overwrite offset data = .ok bs) : offset + data.length ≤ buf.length := by
  obtain ⟨front, old, back, rfl, rfl, hlength, -⟩ := exists_append_of_overwrite h
  simp only [List.length_append]
  omega

theorem length_of_overwrite {buf data bs : Bytes} {offset : Nat}
    (h : buf.overwrite offset data = .ok bs) : bs.length = buf.length := by
  obtain ⟨front, old, back, rfl, -, hlength, rfl⟩ := exists_append_of_overwrite h
  simp only [List.length_append, hlength]

/-- Writes bytes over others at several offsets, one after the other. -/
def overwriteAll (buf : Bytes) : List (Nat × Bytes) → Except Fault Bytes
  | [] => .ok buf
  | (offset, data) :: ps => do
    let bs ← buf.overwrite offset data
    bs.overwriteAll ps

theorem overwriteAll_cons_eq_ok_iff {buf data bs : Bytes} {offset : Nat}
    {ps : List (Nat × Bytes)} :
    buf.overwriteAll ((offset, data) :: ps) = .ok bs ↔
      ∃ mid, buf.overwrite offset data = .ok mid ∧ mid.overwriteAll ps = .ok bs :=
  bind_eq_ok_iff

theorem length_of_overwriteAll {buf bs : Bytes} {ps : List (Nat × Bytes)}
    (h : buf.overwriteAll ps = .ok bs) : bs.length = buf.length := by
  induction ps generalizing buf with
  | nil => exact congrArg List.length (Except.ok.inj h).symm
  | cons p ps ih =>
    obtain ⟨mid, hp, hps⟩ := overwriteAll_cons_eq_ok_iff.1 h
    rw [ih hps, length_of_overwrite hp]

/-- What is written over others lies inside the buffer. -/
theorem le_length_of_overwriteAll {buf bs : Bytes} {ps : List (Nat × Bytes)}
    (h : buf.overwriteAll ps = .ok bs) :
    ∀ p ∈ ps, p.1 + p.2.length ≤ buf.length := by
  induction ps generalizing buf with
  | nil => simp
  | cons p ps ih =>
    obtain ⟨mid, hp, hps⟩ := overwriteAll_cons_eq_ok_iff.1 h
    rintro q (_ | ⟨_, hq⟩)
    · exact le_length_of_overwrite hp
    · rw [← length_of_overwrite hp]
      exact ih hps q hq

end ZipArchive.Bytes
