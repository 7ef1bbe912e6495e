import Mathlib.Data.Nat.Bitwise
import Mathlib.Order.Bounds.Defs
import ZipArchive.Proofs.Extra.Cursor
import ZipArchive.Proofs.Extra.Reachable

/-!
# The numbers of owners and groups

An id of 64 bits is written in the least number of bytes that hold it, `isLeast_length_minimalLE`.
Read back, an id is the number of its bytes if that is a word, `Ownership.number?_eq_word?`. Zeros
may stand behind it in any number, since they are passed over without their place being looked at,
and a byte that would be shifted out of the word is refused. `Ownership.ids_of_parse` says so of
local payloads.
-/

namespace ZipArchive

/-- Zeros at the high end of a number add nothing to it. -/
theorem Bytes.ofLE_append_zeros (bs : Bytes) (zeros : ℕ) :
    ofLE (bs ++ List.replicate zeros 0) = ofLE bs := by
  induction bs with
  | nil =>
    induction zeros with
    | zero => rfl
    | succ zeros ih => simpa [List.replicate_succ, ofLE] using ih
  | cons b bs ih => rw [List.cons_append, ofLE, ofLE, ih]

namespace Extra

/-! ### Writing ids -/

private theorem ofLE_minimalLE (n : ℕ) : Bytes.ofLE (minimalLE n) = n := by
  induction n using minimalLE.induct with
  | case1 n h =>
    rw [minimalLE, if_pos h]
    simp [Bytes.ofLE, Nat.mod_eq_of_lt h]
  | case2 n h ih =>
    rw [minimalLE, if_neg h, Bytes.ofLE, ih, UInt8.toNat_ofNat']
    omega

/-- A number is written in the least number of bytes, one at least, that hold it. -/
theorem isLeast_length_minimalLE (n : ℕ) :
    IsLeast {w | 0 < w ∧ n < 256 ^ w} (minimalLE n).length := by
  induction n using minimalLE.induct with
  | case1 n h =>
    rw [minimalLE, if_pos h]
    exact ⟨⟨Nat.one_pos, h⟩, fun w hw => hw.1⟩
  | case2 n h ih =>
    rw [minimalLE, if_neg h, List.length_cons]
    refine ⟨⟨Nat.succ_pos _, ?_⟩, ?_⟩
    · have hrest := ih.1.2
      rw [Nat.pow_succ]
      omega
    · rintro w ⟨hpos, hw⟩
      obtain ⟨v, rfl⟩ := Nat.exists_eq_succ_of_ne_zero (Nat.pos_iff_ne_zero.1 hpos)
      rw [Nat.pow_succ] at hw
      -- a number of more than one byte needs a byte for its rest
      have hv : 0 < v := by
        refine Nat.pos_of_ne_zero ?_
        rintro rfl
        omega
      exact Nat.succ_le_succ (ih.2 ⟨hv, by omega⟩)

namespace Ownership

/-! ### Reading ids -/

/-- A byte that is shifted to its place in a word, above all that is there, is added to it. -/
theorem toNat_or_shiftLeft {number : UInt64} {position : ℕ} (hposition : position < 8)
    (hnumber : number.toNat < 256 ^ position) (b : UInt8) :
    (number ||| b.toUInt64 <<< UInt64.ofNat (8 * position)).toNat =
      number.toNat + 256 ^ position * b.toNat := by
  have hpow : (256 : ℕ) ^ position = 2 ^ (8 * position) := (Nat.pow_mul 2 8 position).symm
  have hshift : (UInt64.ofNat (8 * position)).toNat % 64 = 8 * position := by
    rw [UInt64.toNat_ofNat']
    omega
  have hfits : b.toNat * 2 ^ (8 * position) < 2 ^ 64 :=
    calc b.toNat * 2 ^ (8 * position)
      _ < 2 ^ 8 * 2 ^ (8 * position) := Nat.mul_lt_mul_of_pos_right b.toNat_lt (Nat.two_pow_pos _)
      _ = 2 ^ (8 + 8 * position) := (Nat.pow_add ..).symm
      _ ≤ 2 ^ 64 := Nat.pow_le_pow_right (by decide) (by omega)
  rw [hpow] at hnumber ⊢
  rw [UInt64.toNat_or, UInt64.toNat_shiftLeft, hshift, UInt8.toNat_toUInt64, Nat.shiftLeft_eq,
    Nat.mod_eq_of_lt hfits, Nat.or_comm, Nat.mul_comm, ← Nat.two_pow_add_eq_or_of_lt hnumber,
    Nat.add_comm]

/-- A number of some bytes with one more byte above it is a number of one byte more. -/
theorem add_pow_mul_lt {number position : ℕ} (hnumber : number < 256 ^ position) (b : UInt8) :
    number + 256 ^ position * b.toNat < 256 ^ (position + 1) :=
  calc number + 256 ^ position * b.toNat
    _ < 256 ^ position + 256 ^ position * b.toNat := Nat.add_lt_add_right hnumber _
    _ = 256 ^ position * (b.toNat + 1) := by rw [Nat.mul_succ, Nat.add_comm]
    _ ≤ 256 ^ (position + 1) := Nat.mul_le_mul_left _ b.toNat_lt

/-- The bytes from a position of an id on are added to the number of those before them, or refused
because the sum is no word. -/
theorem go_eq_some_iff {id number : UInt64} {position : ℕ}
    (hnumber : number.toNat < 256 ^ position) (bs : Bytes) :
    number?.go number position bs = some id ↔
      number.toNat + 256 ^ position * Bytes.ofLE bs = id.toNat := by
  induction bs generalizing number position with
  | nil => simp [number?.go, Bytes.ofLE, UInt64.toNat_inj]
  | cons b bs ih =>
    have hnext := add_pow_mul_lt hnumber b
    have hsum : number.toNat + 256 ^ position * Bytes.ofLE (b :: bs) =
        number.toNat + 256 ^ position * b.toNat + 256 ^ (position + 1) * Bytes.ofLE bs := by
      rw [Bytes.ofLE, Nat.mul_add, Nat.pow_succ, Nat.mul_assoc, Nat.add_assoc]
    rw [hsum, number?.go]
    split
    case isTrue hzero =>
      subst hzero
      exact ih hnext
    case isFalse hzero =>
      split
      case isTrue hposition =>
        -- the byte counts for more than any word
        have hid := id.toNat_lt
        have hb : 0 < b.toNat := Nat.pos_of_ne_zero fun h => hzero (UInt8.toNat_inj.1 h)
        have hplace : 256 ^ 8 ≤ 256 ^ position := Nat.pow_le_pow_right (by decide) hposition
        have hbyte := Nat.mul_le_mul_left (256 ^ position) hb
        exact iff_of_false (by simp) (by omega)
      case isFalse hposition =>
        have hor := toNat_or_shiftLeft (Nat.not_le.1 hposition) hnumber b
        rw [ih (hor ▸ hnext), hor]

private theorem number?_eq_some_iff {bs : Bytes} {id : UInt64} :
    number? bs = some id ↔ Bytes.ofLE bs = id.toNat := by
  rw [number?, go_eq_some_iff (Nat.lt_of_lt_of_eq Nat.one_pos (Nat.pow_zero 256).symm)]
  simp

/-- A number as a word of 64 bits, if it is one. -/
def word? (n : ℕ) : Option UInt64 :=
  if n < 2 ^ 64 then some (.ofNat n) else none

private theorem word?_toNat (id : UInt64) : word? id.toNat = some id := by
  rw [word?, if_pos id.toNat_lt, UInt64.ofNat_toNat]

/-- An id is the number of its bytes if that is a word, and there is none otherwise. -/
theorem number?_eq_word? (bs : Bytes) : number? bs = word? (Bytes.ofLE bs) := by
  rw [word?]
  split
  case isTrue hword => exact number?_eq_some_iff.2 (UInt64.toNat_ofNat_of_lt' hword).symm
  case isFalse hlarge =>
    refine Option.eq_none_iff_forall_ne_some.2 fun id hid => hlarge ?_
    rw [number?_eq_some_iff.1 hid]
    exact id.toNat_lt

private theorem number?_minimalLE (id : UInt64) : number? (minimalLE id.toNat) = some id := by
  rw [number?_eq_word?, ofLE_minimalLE, word?_toNat]

/-! ### Payloads -/

variable {buf : Array UInt8} {offset length : ℕ} {o p : Ownership}

private theorem parse_of_span_localData (o : Ownership) (hp : p.WellFormed)
    (hspan : Buffer.span buf offset length = .ok p.localData) :
    Record.parse .localHeader o buf offset length =
      (.ok (), { p with centralCopy? := o.centralCopy? }) := by
  rw [parse_localHeader, inSpan_of_span hspan, withLocal_localData hp, Outcome.ofExcept_ok]

private theorem span_localData_of_parse
    (h : Record.parse .localHeader o buf offset length = (.ok (), p)) :
    p.WellFormed ∧ Buffer.span buf offset length = .ok p.localData := by
  rw [parse_localHeader] at h
  obtain ⟨payload, hspan, hread⟩ := exists_of_inSpan_eq_ok h
  obtain ⟨rfl, hp, -⟩ := of_withLocal (ofExcept_eq_ok_iff.1 hread)
  exact ⟨hp, hspan⟩

/-- Ids of 64 bits are written in the fewest bytes and read back. A local payload that is read holds
two ids of 255 bytes at most, each of them the number of its bytes if that is a word. All such
payloads are read, and zeros behind the bytes of an id do not change it. -/
theorem ids_of_parse :
    (∀ (user group : UInt64) (o : Ownership), ∃ p,
      Record.parse .localHeader o (ofIds user group).localData.toArray 0
        (ofIds user group).localData.length = (.ok (), p) ∧
      p.user? = some user ∧ p.group? = some group ∧
      IsLeast {w | 0 < w ∧ user.toNat < 256 ^ w} p.userBytes.length ∧
      IsLeast {w | 0 < w ∧ group.toNat < 256 ^ w} p.groupBytes.length) ∧
    (∀ (o p : Ownership) (buf : Array UInt8) (offset length : ℕ),
      Record.parse .localHeader o buf offset length = (.ok (), p) →
        ∃ version user group, Buffer.span buf offset length =
            .ok (version :: (sized user ++ sized group)) ∧
          user.length ≤ 255 ∧ group.length ≤ 255 ∧
          p.user? = word? (Bytes.ofLE user) ∧ p.group? = word? (Bytes.ofLE group)) ∧
    ∀ (version : UInt8) (user group : Bytes) (userZeros groupZeros : ℕ),
      user.length + userZeros ≤ 255 → group.length + groupZeros ≤ 255 →
        ∀ (o : Ownership) (buf : Array UInt8) (offset length : ℕ),
          Buffer.span buf offset length =
              .ok (version :: (sized (user ++ List.replicate userZeros 0) ++
                sized (group ++ List.replicate groupZeros 0))) →
            ∃ p, Record.parse .localHeader o buf offset length = (.ok (), p) ∧
              p.user? = word? (Bytes.ofLE user) ∧ p.group? = word? (Bytes.ofLE group) := by
  refine ⟨fun user group o => ?_, fun o p buf offset length h => ?_,
    fun version user group userZeros groupZeros huser hgroup o buf offset length hspan => ?_⟩
  · have hspan : Buffer.span (ofIds user group).localData.toArray 0
        (ofIds user group).localData.length = .ok (ofIds user group).localData := by
      rw [Buffer.span_eq_span_toList, Bytes.span_self]
    exact ⟨_, parse_of_span_localData o (wellFormed_ofIds user group) hspan,
      number?_minimalLE user, number?_minimalLE group, isLeast_length_minimalLE _,
      isLeast_length_minimalLE _⟩
  · obtain ⟨⟨huser, hgroup⟩, hspan⟩ := span_localData_of_parse h
    exact ⟨p.version, p.userBytes, p.groupBytes, hspan, Nat.le_of_lt_succ huser,
      Nat.le_of_lt_succ hgroup, number?_eq_word? _, number?_eq_word? _⟩
  · let padded : Ownership :=
      { version
        userBytes := user ++ List.replicate userZeros 0
        groupBytes := group ++ List.replicate groupZeros 0 }
    have hpadded : padded.WellFormed := by
      refine ⟨?_, ?_⟩
      · rw [List.length_append, List.length_replicate]
        exact Nat.lt_succ_of_le huser
      · rw [List.length_append, List.length_replicate]
        exact Nat.lt_succ_of_le hgroup
    refine ⟨_, parse_of_span_localData o hpadded hspan, ?_, ?_⟩
    · exact (number?_eq_word? _).trans (congrArg word? (Bytes.ofLE_append_zeros user userZeros))
    · exact (number?_eq_word? _).trans (congrArg word? (Bytes.ofLE_append_zeros group groupZeros))

/-- A payload with an owner that is followed by two zeros, and a group of nine bytes. -/
def samplePayload : Bytes :=
  [1, 4, 0xF5, 1, 0, 0, 9, 7, 0, 0, 0, 0, 0, 0, 0, 1]

/-- The owner is told, and the group is none, since its last byte is not a zero. -/
theorem ids_of_parse_samplePayload :
    Buffer.span samplePayload.toArray 0 16 = .ok samplePayload ∧
      ∃ p, Record.parse .localHeader (default : Ownership) samplePayload.toArray 0 16 =
          (.ok (), p) ∧
        p.user? = some 501 ∧ p.group? = none := by
  have hspan : Buffer.span samplePayload.toArray 0 16 = .ok samplePayload := by decide
  obtain ⟨-, -, hpadded⟩ := ids_of_parse
  exact ⟨hspan, hpadded 1 [0xF5, 1] [7, 0, 0, 0, 0, 0, 0, 0, 1] 2 0 (by decide) (by decide)
    default samplePayload.toArray 0 16 hspan⟩

end Ownership

end Extra

end ZipArchive
