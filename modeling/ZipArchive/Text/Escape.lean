import ZipArchive.Text.Hex

/-!
# Escapes of code units

Text that a charset cannot hold is written as escapes: a percent sign, a capital `U` and the four
hexadecimal digits of a UTF-16 code unit. `ofChar` writes a character that way, one escape for each
of its code units, and `unescape` turns runs of escapes back into text; a code unit of half a pair
becomes a replacement character.
-/

namespace ZipArchive.Escape

/-- The UTF-16 code units of a character. -/
def units (c : Char) : List Nat :=
  let n := c.toNat
  if n < 0x10000 then [n]
  else [0xD800 + (n - 0x10000) / 1024, 0xDC00 + (n - 0x10000) % 1024]

/-- The escape of one code unit. -/
def ofUnit (u : Nat) : List Char :=
  '%' :: 'U' :: (Hex.upper 4 u).toList

/-- The escapes of a character. -/
def ofChar (c : Char) : List Char :=
  (units c).flatMap ofUnit

/-- The code unit of the escape that a text starts with. -/
def unit? : List Char → Option Nat
  | '%' :: 'U' :: a :: b :: c :: d :: _ => do
    let a ← Hex.digit? a
    let b ← Hex.digit? b
    let c ← Hex.digit? c
    let d ← Hex.digit? d
    return a * 4096 + b * 256 + c * 16 + d
  | _ => none

/-- Whether a code unit is the first half of a pair. -/
def isHigh (u : Nat) : Bool := 0xD800 ≤ u && u < 0xDC00

/-- Whether a code unit is the second half of a pair. -/
def isLow (u : Nat) : Bool := 0xDC00 ≤ u && u < 0xE000

/-- The text of a run of code units. A half without its other half becomes a replacement
character. -/
def ofUnits : List Nat → List Char
  | [] => []
  | [u] => [if isHigh u || isLow u then '\uFFFD' else Char.ofNat u]
  | u :: v :: rest =>
    if isHigh u && isLow v then
      Char.ofNat (0x10000 + (u - 0xD800) * 1024 + (v - 0xDC00)) :: ofUnits rest
    else (if isHigh u || isLow u then '\uFFFD' else Char.ofNat u) :: ofUnits (v :: rest)

/-- Replaces the escapes of `text` by what they stand for. `out` is the text before, in reverse, and
`run` the code units of the escapes directly before, in reverse. -/
def unescape.go (text : List Char) (run : List Nat) (out : List Char) : List Char :=
  match text with
  | [] => out.reverse ++ ofUnits run.reverse
  | c :: rest =>
    match unit? (c :: rest) with
    | some u => unescape.go (rest.drop 5) (u :: run) out
    | none => unescape.go rest [] (c :: (ofUnits run.reverse).reverseAux out)
termination_by text.length
decreasing_by all_goals simp only [List.length_drop, List.length_cons]; omega

/-- Replaces each run of adjacent escapes by the text of its code units. -/
def unescape (text : List Char) : List Char :=
  unescape.go text [] []

end ZipArchive.Escape
