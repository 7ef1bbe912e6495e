import ZipArchive.Extra.Ownership
import ZipArchive.Proofs.Except
import ZipArchive.Proofs.LittleEndian

/-!
# Laws of Unix ownership

The local payload has one byte for the length of each id. So it is read back only if an id has no
more than 255 bytes, `WellFormed`. Ids that were read are that short, since their length was read
from such a byte, and the ids of 64 bits have eight bytes at most: `length_minimalLE_le`.
-/

namespace ZipArchive.Extra

/-- A number below the capacity of a width has no more bytes than the width. -/
theorem length_minimalLE_le {w n : ℕ} (h : n < 256 ^ (w + 1)) : (minimalLE n).length ≤ w + 1 := by
  induction w generalizing n with
  | zero =>
    rw [minimalLE, if_pos (by simpa using h)]
    exact Nat.le_refl 1
  | succ w ih =>
    rw [minimalLE]
    split
    · exact Nat.le_add_left 1 _
    · have hrest : n / 256 < 256 ^ (w + 1) := by
        rw [Nat.pow_succ] at h
        omega
      have hlength := ih hrest
      rw [List.length_cons]
      omega

namespace Ownership

/-- The lengths of the ids fit a byte. -/
def WellFormed (o : Ownership) : Prop :=
  o.userBytes.length < 256 ∧ o.groupBytes.length < 256

private theorem length_minimalLE_lt (id : UInt64) : (minimalLE id.toNat).length < 256 := by
  have hid : id.toNat < 256 ^ (7 + 1) := id.toNat_lt
  have hlength := length_minimalLE_le hid
  omega

theorem wellFormed_ofIds (user group : UInt64) : (ofIds user group).WellFormed :=
  ⟨length_minimalLE_lt user, length_minimalLE_lt group⟩

theorem WellFormed.setUser {o : Ownership} (h : o.WellFormed) (id : UInt64) :
    (o.setUser id).WellFormed :=
  ⟨length_minimalLE_lt id, h.2⟩

theorem WellFormed.setGroup {o : Ownership} (h : o.WellFormed) (id : UInt64) :
    (o.setGroup id).WellFormed :=
  ⟨h.1, length_minimalLE_lt id⟩

/-! ### Local payloads -/

/-- An id is read back by its length. -/
theorem takeId_sized {id : Bytes} (rest : Bytes) (h : id.length < 256) :
    takeId (sized id ++ rest) = .ok (id, rest) := by
  have hsize : (UInt8.ofNat id.length).toNat = id.length := UInt8.toNat_ofNat_of_lt' h
  have henough : ¬(id ++ rest).length < id.length := by
    rw [List.length_append]
    omega
  rw [sized, List.cons_append, takeId, hsize, if_neg henough, List.take_left, List.drop_left]

/-- An id that was taken off the front stood there with its length. -/
theorem of_takeId {bs id rest : Bytes} (h : takeId bs = .ok (id, rest)) :
    bs = sized id ++ rest ∧ id.length < 256 := by
  cases bs with
  | nil => cases h
  | cons size bs =>
    rw [takeId] at h
    split at h
    case isTrue => cases h
    case isFalse hlength =>
      obtain ⟨rfl, rfl⟩ := Prod.mk.inj (Except.ok.inj h)
      have hsize : (bs.take size.toNat).length = size.toNat := by
        rw [List.length_take]
        omega
      refine ⟨?_, Nat.lt_of_le_of_lt (Nat.le_of_eq hsize) size.toNat_lt⟩
      rw [sized, hsize, UInt8.ofNat_toNat, List.cons_append, List.take_append_drop]

/-- The version and the ids are read back. The central payload is that of the record before. -/
theorem withLocal_localData {o : Ownership} (h : o.WellFormed) (p : Ownership) :
    p.withLocal o.localData = .ok { o with centralCopy? := p.centralCopy? } := by
  have hgroup := takeId_sized [] h.2
  rw [List.append_nil] at hgroup
  rw [localData, withLocal, takeId_sized _ h.1]
  simp only [bind, Except.bind]
  rw [hgroup]
  rfl

/-! ### What is read is written -/

/-- A local payload is a version and two ids with their lengths. -/
theorem of_withLocal {payload : Bytes} {o p : Ownership} (h : o.withLocal payload = .ok p) :
    p.localData = payload ∧ p.WellFormed ∧ p.centralData = o.centralData := by
  cases payload with
  | nil => cases h
  | cons version bs =>
    obtain ⟨⟨user, bs₁⟩, huser, h⟩ := bind_eq_ok_iff.1 h
    obtain ⟨⟨group, bs₂⟩, hgroup, h⟩ := bind_eq_ok_iff.1 h
    simp only at h
    split at h
    case isTrue hempty =>
      obtain rfl := Except.ok.inj h
      obtain ⟨rfl, huserLength⟩ := of_takeId huser
      obtain ⟨rfl, hgroupLength⟩ := of_takeId hgroup
      refine ⟨?_, ⟨huserLength, hgroupLength⟩, rfl⟩
      rw [List.isEmpty_iff.1 hempty, List.append_nil]
      rfl
    case isFalse => cases h

theorem wellFormed_of_withLocal {bs : Bytes} {o p : Ownership} (h : o.withLocal bs = .ok p) :
    p.WellFormed :=
  (of_withLocal h).2.1

/-- A local payload that is read is written again. -/
theorem localData_of_withLocal {payload : Bytes} {o p : Ownership}
    (h : o.withLocal payload = .ok p) : p.localData = payload :=
  (of_withLocal h).1

/-- The central payload is that of the record before. -/
theorem centralData_of_withLocal {payload : Bytes} {o p : Ownership}
    (h : o.withLocal payload = .ok p) : p.centralData = o.centralData :=
  (of_withLocal h).2.2

end Ownership

end ZipArchive.Extra
