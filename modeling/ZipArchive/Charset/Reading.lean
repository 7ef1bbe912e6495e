import ZipArchive.Bytes.Basic

/-!
# Units of encoded text

Encoded text is read one unit at a time: the bytes of a character, an escape sequence that
designates another set of characters, or bytes that form nothing. A `Reading` says how many bytes
the unit at the front covers, which characters it stands for and which set holds after it. Bytes
that only ended a malformed unit are not part of it and are read again.
-/

namespace ZipArchive.Charset

/-- The set of characters designated at a point of the text. All charsets but ISO-2022-JP stay in
the first. -/
inductive Designation where
  /-- ASCII, or whatever the charset starts with. -/
  | ascii
  /-- The Roman set of JIS X 0201. -/
  | roman
  /-- The halfwidth katakana of JIS X 0201. -/
  | katakana
  /-- JIS X 0208. -/
  | kanji
deriving DecidableEq, Repr, Inhabited

/-- What stands at the front of encoded text. -/
structure Reading where
  /-- How many bytes the unit covers. -/
  size : Nat
  /-- The characters it stands for, or nothing if it is malformed. -/
  text? : Option (List Char)
  /-- The set designated after it. -/
  after : Designation := .ascii
deriving DecidableEq, Repr

namespace Reading

/-- One character of `size` bytes. -/
def char (c : Char) (size : Nat) : Reading := { size := size, text? := some [c] }

/-- A unit that stands for nothing. -/
def malformed (size : Nat) : Reading := { size := size, text? := none }

/-- One character if there is one, and otherwise a malformed unit of a lead byte and `trail`: the
trail byte belongs to it unless it is ASCII. -/
def pair (c : Option Char) (trail : UInt8) : Reading :=
  match c with
  | some c => char c 2
  | none => malformed (if trail < 0x80 then 1 else 2)

/-- The characters of a unit, with a replacement character for a malformed one. -/
def replaced (r : Reading) : List Char := r.text?.getD ['\uFFFD']

end Reading

/-- The number of a byte counted from `first`, if it lies between `first` and `last`. -/
def within? (first last b : UInt8) : Option Nat :=
  if first ≤ b ∧ b ≤ last then some (b.toNat - first.toNat) else none

end ZipArchive.Charset
