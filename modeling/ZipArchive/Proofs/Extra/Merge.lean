import ZipArchive.Extra.Stream
import ZipArchive.Proofs.Except
import ZipArchive.Proofs.LittleEndian

/-!
# Laws of merging

The stream of a list of fields is the concatenation of the streams of its fields, so that a list
that splits has a stream that splits: `merge_append_eq_ok_iff`. A field that is a record is written
with its id and the length of its payload, and left-over bytes as they are.
-/

namespace ZipArchive.Extra

variable {κ : Type} [Record κ] {place : Place}

/-! ### Merging -/

theorem merge_nil : merge place ([] : List (Field κ)) = .ok [] := rfl

theorem merge_cons_eq_ok_iff {f : Field κ} {fs : List (Field κ)} {bs : Bytes} :
    merge place (f :: fs) = .ok bs ↔
      ∃ front back, f.toStream place = .ok front ∧ merge place fs = .ok back ∧
        bs = front ++ back := by
  simp only [merge, map_eq_ok_iff, mapM_eq_ok_iff]
  constructor
  · rintro ⟨_, h, rfl⟩
    obtain ⟨front, rest, hf, hfs, rfl⟩ := List.forall₂_cons_left_iff.1 h
    exact ⟨front, rest.flatten, hf, ⟨rest, hfs, rfl⟩, rfl⟩
  · rintro ⟨front, _, hf, ⟨rest, hfs, rfl⟩, rfl⟩
    exact ⟨front :: rest, .cons hf hfs, rfl⟩

theorem merge_append_eq_ok_iff {fs gs : List (Field κ)} {bs : Bytes} :
    merge place (fs ++ gs) = .ok bs ↔
      ∃ front back, merge place fs = .ok front ∧ merge place gs = .ok back ∧
        bs = front ++ back := by
  induction fs generalizing bs with
  | nil => simp [merge_nil]
  | cons f fs ih =>
    rw [List.cons_append, merge_cons_eq_ok_iff]
    constructor
    · rintro ⟨x, y, hx, hy, rfl⟩
      obtain ⟨y₁, y₂, hy₁, hy₂, rfl⟩ := ih.1 hy
      exact ⟨x ++ y₁, y₂, merge_cons_eq_ok_iff.2 ⟨x, y₁, hx, hy₁, rfl⟩, hy₂,
        (List.append_assoc _ _ _).symm⟩
    · rintro ⟨_, back, hfront, hback, rfl⟩
      obtain ⟨x, y, hx, hy, rfl⟩ := merge_cons_eq_ok_iff.1 hfront
      exact ⟨x, y ++ back, hx, ih.2 ⟨y, back, hy, hback, rfl⟩, List.append_assoc _ _ _⟩

/-- The bytes of a field that is a record. -/
theorem Field.toStream_eq_ok_iff {f : Field κ} (hf : f.isLeftover = false) {bs : Bytes} :
    f.toStream place = .ok bs ↔ (f.data place).length ≤ 65535 ∧
      bs = bytes16 f.id ++ Bytes.toLE 2 (f.data place).length ++ f.data place := by
  simp only [Field.toStream, hf, Bool.false_eq_true, if_false]
  split
  case isTrue h => simp [h, eq_comm]
  case isFalse h => simp [h]

theorem Field.toStream_leftover (l : Leftover) :
    (Field.leftover l : Field κ).toStream place = .ok (Record.data place l) := rfl

/-- The bytes before the payload of a record give its id and the length of the payload. -/
theorem exists_recordHeader_eq (id : UInt16) {payload : Bytes} (h : payload.length ≤ 65535) :
    ∃ i₀ i₁ n₀ n₁, bytes16 id ++ Bytes.toLE 2 payload.length = [i₀, i₁, n₀, n₁] ∧
      Bytes.ofLE [i₀, i₁] = id.toNat ∧ Bytes.ofLE [n₀, n₁] = payload.length := by
  refine ⟨_, _, _, _, rfl, Bytes.ofLE_bytes16 id, ?_⟩
  exact (Bytes.ofLE_toLE 2 payload.length).trans (Nat.mod_eq_of_lt (by omega))

/-- The number of bytes of a field in a stream. -/
theorem Field.length_toStream {f : Field κ} {bs : Bytes} (h : f.toStream place = .ok bs) :
    bs.length = (f.data place).length + if f.isLeftover then 0 else 4 := by
  cases hf : f.isLeftover with
  | true =>
    simp only [Field.toStream, hf, if_true, Except.ok.injEq] at h
    simp [h]
  | false =>
    obtain ⟨-, rfl⟩ := (Field.toStream_eq_ok_iff hf).1 h
    simp only [List.length_append, Bytes.length_toLE]
    simp
    omega

end ZipArchive.Extra
