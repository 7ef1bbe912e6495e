import ZipArchive.Charset.Japanese

/-!
# ISO-2022-JP

Seven-bit Japanese text, in which escape sequences designate the set that the following bytes are
read in. An escape sequence directly followed by another is malformed, since nothing was written in
the set it designates. The writer designates a set before a character when another one holds, and
ASCII at the end. It takes neither the two shift controls nor the escape character.
-/

namespace ZipArchive.Charset.Iso2022Jp

/-- The set that the two bytes after an escape character designate. -/
def designated? : UInt8 → UInt8 → Option Designation
  | 0x28, 0x42 => some .ascii
  | 0x28, 0x4A => some .roman
  | 0x28, 0x49 => some .katakana
  | 0x24, 0x40 => some .kanji
  | 0x24, 0x42 => some .kanji
  | _, _ => none

/-- Whether bytes begin with an escape sequence that designates a set. -/
def startsWithEscape : Bytes → Bool
  | 0x1B :: x :: y :: _ => (designated? x y).isSome
  | _ => false

/-- Reads what follows an escape character. -/
def readEscape (set : Designation) : Bytes → Reading
  | x :: y :: rest =>
    match designated? x y with
    | some new =>
      { size := 3, text? := if startsWithEscape rest then none else some [], after := new }
    | none => { Reading.malformed 1 with after := set }
  | _ => { Reading.malformed 1 with after := set }

/-- Reads a character of JIS X 0208 that starts with `b`. -/
def readKanji (b : UInt8) (rest : Bytes) : Reading :=
  match within? 0x21 0x7E b, rest with
  | some row, t :: _ =>
    if t = 0x1B then .malformed 1
    else match (within? 0x21 0x7E t).bind fun cell => Index.jis0208.char? (row * 94 + cell) with
      | some c => .char c 2
      | none => .malformed 2
  | _, _ => .malformed 1

/-- Reads a byte of one of the single-byte sets. -/
def readSingle (set : Designation) (b : UInt8) : Reading :=
  match set with
  | .katakana =>
    match within? 0x21 0x5F b with
    | some k => .char (Char.ofNat (0xFF61 + k)) 1
    | none => .malformed 1
  | _ =>
    if set = .roman ∧ b = 0x5C then .char '\u00A5' 1
    else if set = .roman ∧ b = 0x7E then .char '\u203E' 1
    else if b < 0x80 ∧ b ≠ 0x0E ∧ b ≠ 0x0F then .char (Char.ofNat b.toNat) 1
    else .malformed 1

/-- Reads the unit that starts with `b` while `set` is designated. -/
def read (set : Designation) (b : UInt8) (rest : Bytes) : Reading :=
  if b = 0x1B then readEscape set rest
  else match set with
    | .kanji => { readKanji b rest with after := set }
    | _ => { readSingle set b with after := set }

/-- The escape sequence that the writer designates a set with. -/
def escape : Designation → Bytes
  | .ascii => [0x1B, 0x28, 0x42]
  | .roman => [0x1B, 0x28, 0x4A]
  | .katakana => [0x1B, 0x28, 0x49]
  | .kanji => [0x1B, 0x24, 0x42]

/-- The fullwidth forms of the halfwidth katakana, in order. -/
def fullwidthKatakana : List Char :=
  "。「」、・ヲァィゥェォャュョッーアイウエオカキクケコサシスセソタチツテトナニヌネノハヒフヘホマミムメモヤユヨラリルレロワン゛゜".toList

/-- The character that is written in place of `c`. -/
def canonical (c : Char) : Char :=
  if 0xFF61 ≤ c.toNat then (fullwidthKatakana[c.toNat - 0xFF61]?).getD c else fullwidthMinus c

/-- The set and the bytes in that set for a character, while `set` is designated. -/
def place? (set : Designation) (c : Char) : Option (Designation × Bytes) :=
  let n := c.toNat
  if n < 0x80 then
    if n = 0x0E ∨ n = 0x0F ∨ n = 0x1B then none
    else if set = .roman ∧ n ≠ 0x5C ∧ n ≠ 0x7E then some (.roman, [UInt8.ofNat n])
    else some (.ascii, [UInt8.ofNat n])
  else if c = '\u00A5' then some (.roman, [0x5C])
  else if c = '\u203E' then some (.roman, [0x7E])
  else (Index.jis0208.pointer? (canonical c)).map fun p =>
    (.kanji, [UInt8.ofNat (p / 94 + 0x21), UInt8.ofNat (p % 94 + 0x21)])

/-- The bytes of a character while `set` is designated, and the set designated after it. -/
def write (set : Designation) (c : Char) : Option (Bytes × Designation) :=
  (place? set c).map fun (new, bs) => ((if new = set then [] else escape new) ++ bs, new)

/-- The bytes at the end of the text. -/
def close (set : Designation) : Bytes :=
  if set = .ascii then [] else escape .ascii

end ZipArchive.Charset.Iso2022Jp
