import ZipArchive.Bytes.Position

/-!
# Little-endian numbers

`toLE w n` writes `n` into exactly `w` bytes, least significant first, and `ofLE` reads any byte
string as a number. `Width.read` and `Width.put` do so at an offset of a buffer for the three
widths that archive records use.
-/

namespace ZipArchive

namespace Bytes

/-- The `w` little-endian bytes of `n`; higher bits are dropped. -/
def toLE : Nat → Nat → Bytes
  | 0, _ => []
  | w + 1, n => UInt8.ofNat (n % 256) :: toLE w (n / 256)

/-- The number whose little-endian bytes are given. -/
def ofLE : Bytes → Nat
  | [] => 0
  | b :: bs => b.toNat + 256 * ofLE bs

@[simp] theorem length_toLE (w n : Nat) : (toLE w n).length = w := by
  induction w generalizing n with
  | zero => rfl
  | succ w ih => simp [toLE, ih]

theorem toLE_ofLE (bs : Bytes) : toLE bs.length (ofLE bs) = bs := by
  induction bs with
  | nil => rfl
  | cons b bs ih =>
    have hb := b.toNat_lt
    have h1 : (b.toNat + 256 * ofLE bs) % 256 = b.toNat := by omega
    have h2 : (b.toNat + 256 * ofLE bs) / 256 = ofLE bs := by omega
    simp [ofLE, toLE, h1, h2, ih]

end Bytes

/-- The widths of the numbers in archive records. -/
inductive Width where
  /-- Two bytes. -/
  | short
  /-- Four bytes. -/
  | long
  /-- Eight bytes. -/
  | eight
deriving DecidableEq, Repr

namespace Width

/-- The number of bytes. -/
def size : Width → Nat
  | short => 2
  | long => 4
  | eight => 8

/-- The number of bytes as a machine word. -/
def bytes (w : Width) : Position := UInt64.ofNat w.size

/-- The number stored in `buf` at `offset`. -/
def read (w : Width) (buf : Bytes) (offset : Position) : Except Fault Nat :=
  Bytes.ofLE <$> buf.spanAt offset w.bytes

/-- Stores the number `n` in `buf` at `offset`, if a number of this width can be read there. -/
def put (w : Width) (n : Nat) (buf : Bytes) (offset : Position) : Outcome Bytes Unit :=
  match buf.spanAt offset w.bytes with
  | .ok _ =>
    (.ok (), buf.take offset.toNat ++ Bytes.toLE w.size n ++ buf.drop (offset + w.bytes).toNat)
  | .error e => (.error e, buf)

end Width

/-- The two little-endian bytes of a word. -/
abbrev bytes16 (n : UInt16) : Bytes := Bytes.toLE 2 n.toNat

/-- The four little-endian bytes of a word. -/
abbrev bytes32 (n : UInt32) : Bytes := Bytes.toLE 4 n.toNat

/-- The eight little-endian bytes of a word. -/
abbrev bytes64 (n : UInt64) : Bytes := Bytes.toLE 8 n.toNat

end ZipArchive
