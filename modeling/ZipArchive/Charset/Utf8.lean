import ZipArchive.Charset.Reading

/-!
# UTF-8

The bytes of a character, and the reading of UTF-8 in which a malformed unit is as long as it
could still have begun a character.
-/

namespace ZipArchive.Charset.Utf8

/-- The bytes of a character. -/
def ofChar (c : Char) : Bytes :=
  let n := c.toNat
  let tail := fun m => UInt8.ofNat (0x80 + m % 64)
  if n < 0x80 then [UInt8.ofNat n]
  else if n < 0x800 then [UInt8.ofNat (0xC0 + n / 64), tail n]
  else if n < 0x10000 then [UInt8.ofNat (0xE0 + n / 4096), tail (n / 64), tail n]
  else [UInt8.ofNat (0xF0 + n / 262144), tail (n / 4096), tail (n / 64), tail n]

/-- The bytes of a text. -/
def ofText (text : List Char) : Bytes :=
  text.flatMap ofChar

/-- Reads continuation bytes onto the value `n` of the bytes before, `size` of them. The next byte
must lie between `low` and `high`, those after it between `80` and `BF`. -/
def continuation (n size : Nat) (low high : UInt8) : Nat → Bytes → Reading
  | 0, _ => .char (Char.ofNat n) size
  | _ + 1, [] => .malformed size
  | more + 1, b :: rest =>
    if low ≤ b ∧ b ≤ high then
      continuation (n * 64 + (b.toNat - 0x80)) (size + 1) 0x80 0xBF more rest
    else .malformed size

/-- Reads the unit that starts with `b`. -/
def read (b : UInt8) (rest : Bytes) : Reading :=
  let n := b.toNat
  if n < 0x80 then .char (Char.ofNat n) 1
  else if n < 0xC2 then .malformed 1
  else if n < 0xE0 then continuation (n - 0xC0) 1 0x80 0xBF 1 rest
  else if n = 0xE0 then continuation 0 1 0xA0 0xBF 2 rest
  else if n = 0xED then continuation 0xD 1 0x80 0x9F 2 rest
  else if n < 0xF0 then continuation (n - 0xE0) 1 0x80 0xBF 2 rest
  else if n = 0xF0 then continuation 0 1 0x90 0xBF 3 rest
  else if n < 0xF4 then continuation (n - 0xF0) 1 0x80 0xBF 3 rest
  else if n = 0xF4 then continuation 4 1 0x80 0x8F 3 rest
  else .malformed 1

end ZipArchive.Charset.Utf8
