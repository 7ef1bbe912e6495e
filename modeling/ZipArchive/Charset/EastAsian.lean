import ZipArchive.Charset.Index
import ZipArchive.Charset.Reading

/-!
# EUC-KR, Big5, GBK and GB 18030

The Korean and Chinese charsets. Each character takes a lead byte from `81` to `FE` and a trail
byte; Big5 has four places that stand for a letter with a combining mark after it, and GB 18030
writes what has no two-byte form in four bytes, of which the second and fourth are digits. GBK is
read as GB 18030, and writes two bytes only.
-/

namespace ZipArchive.Charset

namespace EucKr

/-- Reads the unit that starts with `b`. -/
def read (b : UInt8) (rest : Bytes) : Reading :=
  if b < 0x80 then .char (Char.ofNat b.toNat) 1
  else match within? 0x81 0xFE b, rest with
    | some row, t :: _ =>
      .pair ((within? 0x41 0xFE t).bind fun cell => Index.eucKr.char? (row * 190 + cell)) t
    | _, _ => .malformed 1

/-- The bytes of a character. -/
def write (c : Char) : Option Bytes :=
  if c.toNat < 0x80 then some [UInt8.ofNat c.toNat]
  else (Index.eucKr.pointer? c).map fun p =>
    [UInt8.ofNat (p / 190 + 0x81), UInt8.ofNat (p % 190 + 0x41)]

end EucKr

namespace Big5

/-- The letters with a combining mark after them, by pointer. -/
def composed? : Nat → Option (List Char)
  | 1133 => some ['\u00CA', '\u0304']
  | 1135 => some ['\u00CA', '\u030C']
  | 1164 => some ['\u00EA', '\u0304']
  | 1166 => some ['\u00EA', '\u030C']
  | _ => none

/-- The place of a trail byte in its row. -/
def cell? (b : UInt8) : Option Nat :=
  (within? 0x40 0x7E b).or ((within? 0xA1 0xFE b).map (· + 63))

/-- Reads the unit that starts with `b`. -/
def read (b : UInt8) (rest : Bytes) : Reading :=
  if b < 0x80 then .char (Char.ofNat b.toNat) 1
  else match within? 0x81 0xFE b, rest with
    | some row, t :: _ =>
      match (cell? t).map (row * 157 + ·) with
      | none => .pair none t
      | some p =>
        match composed? p with
        | some cs => { size := 2, text? := some cs }
        | none => .pair (Index.big5.char? p) t
    | _, _ => .malformed 1

/-- The bytes of a character. -/
def write (c : Char) : Option Bytes :=
  if c.toNat < 0x80 then some [UInt8.ofNat c.toNat]
  else (Index.big5.pointer? c).map fun p =>
    let cell := p % 157
    [UInt8.ofNat (p / 157 + 0x81), UInt8.ofNat (cell + if cell < 63 then 0x40 else 0x62)]

end Big5

namespace Gb18030

/-- The place of a trail byte in its row. -/
def cell? (b : UInt8) : Option Nat :=
  (within? 0x40 0x7E b).or ((within? 0x80 0xFE b).map (· + 63))

/-- The character of a four-byte pointer. -/
def ofFourByte? (pointer : Nat) : Option Char :=
  if 39419 < pointer ∧ pointer < 189000 ∨ 1237575 < pointer then none
  else if pointer = 7457 then some '\uE7C7'
  else (Index.gbRanges.reverse.find? (·.1 ≤ pointer)).map fun (first, start) =>
    Char.ofNat (start + (pointer - first))

/-- The four-byte pointer of a character without two-byte form. -/
def fourByte? (c : Char) : Option Nat :=
  if c = '\uE7C7' then some 7457
  else (Index.gbRanges.reverse.find? (·.2 ≤ c.toNat)).map fun (first, start) =>
    first + (c.toNat - start)

/-- Reads a four-byte character of which the lead byte `b` and the digit `d` are known. -/
def readFour (b d : UInt8) : Bytes → Reading
  | [] => .malformed 2
  | l :: rest =>
    match within? 0x81 0xFE l, rest with
    | none, _ => .malformed 1
    | some _, [] => .malformed 3
    | some k, e :: _ =>
      match within? 0x30 0x39 e with
      | none => .malformed 1
      | some j =>
        match ofFourByte? (((b.toNat - 0x81) * 10 + (d.toNat - 0x30)) * 1260 + k * 10 + j) with
        | some c => .char c 4
        | none => .malformed 4

/-- Reads the unit that starts with `b`. -/
def read (b : UInt8) (rest : Bytes) : Reading :=
  if b < 0x80 then .char (Char.ofNat b.toNat) 1
  else if b = 0x80 then .char '\u20AC' 1
  else match within? 0x81 0xFE b, rest with
    | some row, t :: rest =>
      if 0x30 ≤ t ∧ t ≤ 0x39 then readFour b t rest
      else .pair ((cell? t).bind fun cell => Index.gb18030.char? (row * 190 + cell)) t
    | _, _ => .malformed 1

/-- Code points for private use that are still written with the two bytes they once had. -/
def retired : List (Nat × Bytes) := [
  (0xE78D, [0xA6, 0xD9]), (0xE78E, [0xA6, 0xDA]), (0xE78F, [0xA6, 0xDB]),
  (0xE790, [0xA6, 0xDC]), (0xE791, [0xA6, 0xDD]), (0xE792, [0xA6, 0xDE]),
  (0xE793, [0xA6, 0xDF]), (0xE794, [0xA6, 0xEC]), (0xE795, [0xA6, 0xED]),
  (0xE796, [0xA6, 0xF3]), (0xE81E, [0xFE, 0x59]), (0xE826, [0xFE, 0x61]),
  (0xE82B, [0xFE, 0x66]), (0xE82C, [0xFE, 0x67]), (0xE832, [0xFE, 0x6D]),
  (0xE843, [0xFE, 0x7E]), (0xE854, [0xFE, 0x90]), (0xE864, [0xFE, 0xA0])]

/-- The two bytes of a character. -/
def twoBytes? (c : Char) : Option Bytes :=
  match Index.gb18030.pointer? c with
  | some p =>
    let cell := p % 190
    some [UInt8.ofNat (p / 190 + 0x81), UInt8.ofNat (cell + if cell < 63 then 0x40 else 0x41)]
  | none => retired.lookup c.toNat

/-- The four bytes of a pointer. -/
def fourBytes (p : Nat) : Bytes :=
  [UInt8.ofNat (p / 12600 + 0x81), UInt8.ofNat (p / 1260 % 10 + 0x30),
    UInt8.ofNat (p / 10 % 126 + 0x81), UInt8.ofNat (p % 10 + 0x30)]

/-- The bytes of a character. One code point, whose two bytes became those of another character, is
not written. -/
def write (c : Char) : Option Bytes :=
  if c.toNat < 0x80 then some [UInt8.ofNat c.toNat]
  else if c = '\uE5E5' then none
  else (twoBytes? c).or ((fourByte? c).map fourBytes)

/-- The bytes of a character in GBK, which has no four-byte forms and one byte for the euro sign. -/
def writeGbk (c : Char) : Option Bytes :=
  if c.toNat < 0x80 then some [UInt8.ofNat c.toNat]
  else if c = '\uE5E5' then none
  else if c = '\u20AC' then some [0x80]
  else twoBytes? c

end Gb18030

end ZipArchive.Charset
