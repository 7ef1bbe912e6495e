import ZipArchive.Charset.Index
import ZipArchive.Charset.Reading

/-!
# Shift_JIS and EUC-JP

The two Japanese charsets without escape sequences. Both write the index of JIS X 0208 and the
halfwidth katakana; Shift_JIS also reads a range for private use, EUC-JP also reads JIS X 0212 after
a prefix byte. Both write the yen sign and the overline as the ASCII bytes in whose place old
terminals showed them, and the minus sign as its fullwidth form.
-/

namespace ZipArchive.Charset

/-- The character that the Japanese charsets write in place of `c`. -/
def fullwidthMinus (c : Char) : Char :=
  if c = '\u2212' then '\uFF0D' else c

namespace ShiftJis

/-- The character of a pointer. -/
def char? (pointer : Nat) : Option Char :=
  if 8836 ≤ pointer ∧ pointer ≤ 10715 then some (Char.ofNat (0xE000 + (pointer - 8836)))
  else Index.shiftJis.char? pointer

/-- The row of a lead byte. -/
def row? (b : UInt8) : Option Nat :=
  (within? 0x81 0x9F b).or ((within? 0xE0 0xFC b).map (· + 31))

/-- The place of a trail byte in its row. -/
def cell? (b : UInt8) : Option Nat :=
  (within? 0x40 0x7E b).or ((within? 0x80 0xFC b).map (· + 63))

/-- Reads the unit that starts with `b`. -/
def read (b : UInt8) (rest : Bytes) : Reading :=
  if b ≤ 0x80 then .char (Char.ofNat b.toNat) 1
  else match within? 0xA1 0xDF b, row? b, rest with
    | some k, _, _ => .char (Char.ofNat (0xFF61 + k)) 1
    | none, some row, t :: _ => .pair ((cell? t).bind fun cell => char? (row * 188 + cell)) t
    | none, _, _ => .malformed 1

/-- The bytes of a character. -/
def write (c : Char) : Option Bytes :=
  let n := c.toNat
  if n ≤ 0x80 then some [UInt8.ofNat n]
  else if c = '\u00A5' then some [0x5C]
  else if c = '\u203E' then some [0x7E]
  else if 0xFF61 ≤ n ∧ n ≤ 0xFF9F then some [UInt8.ofNat (n - 0xFF61 + 0xA1)]
  else (Index.shiftJis.pointer? (fullwidthMinus c)).map fun p =>
    let row := p / 188
    let cell := p % 188
    [UInt8.ofNat (row + if row < 31 then 0x81 else 0xC1),
      UInt8.ofNat (cell + if cell < 63 then 0x40 else 0x41)]

end ShiftJis

namespace EucJp

/-- The character that two bytes from `A1` to `FE` have in an index with rows of 94. -/
def char? (index : Index) (lead trail : UInt8) : Option Char := do
  let row ← within? 0xA1 0xFE lead
  let cell ← within? 0xA1 0xFE trail
  index.char? (row * 94 + cell)

/-- Reads a unit of JIS X 0212, after its prefix byte. -/
def readSupplement : Bytes → Reading
  | [] => .malformed 1
  | lead :: rest =>
    if lead < 0xA1 || lead = 0xFF then .pair none lead
    else match rest with
      | [] => .malformed 2
      | trail :: _ =>
        match char? Index.jis0212 lead trail with
        | some c => .char c 3
        | none => .malformed (if trail < 0x80 then 2 else 3)

/-- Reads the unit that starts with `b`. -/
def read (b : UInt8) (rest : Bytes) : Reading :=
  if b < 0x80 then .char (Char.ofNat b.toNat) 1
  else if b = 0x8F then readSupplement rest
  else if b = 0x8E || (0xA1 ≤ b && b ≤ 0xFE) then
    match rest with
    | [] => .malformed 1
    | t :: _ =>
      if b = 0x8E then .pair ((within? 0xA1 0xDF t).map fun k => Char.ofNat (0xFF61 + k)) t
      else .pair (char? Index.jis0208 b t) t
  else .malformed 1

/-- The bytes of a character. -/
def write (c : Char) : Option Bytes :=
  let n := c.toNat
  if n < 0x80 then some [UInt8.ofNat n]
  else if c = '\u00A5' then some [0x5C]
  else if c = '\u203E' then some [0x7E]
  else if 0xFF61 ≤ n ∧ n ≤ 0xFF9F then some [0x8E, UInt8.ofNat (n - 0xFF61 + 0xA1)]
  else (Index.jis0208.pointer? (fullwidthMinus c)).map fun p =>
    [UInt8.ofNat (p / 94 + 0xA1), UInt8.ofNat (p % 94 + 0xA1)]

end EucJp

end ZipArchive.Charset
