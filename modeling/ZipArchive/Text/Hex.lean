/-!
# Hexadecimal digits

Texts of natural numbers in base sixteen, padded with zeros to a least width: `Hex.lower` for the
numbers in messages, `Hex.upper` for escapes and code points; and `Hex.digit?`, the value of one
digit of either case.
-/

namespace ZipArchive.Hex

/-- The digits of `n` in base sixteen, most significant first, in small letters and at least
`width` of them. -/
def lower (width n : Nat) : String :=
  let ds := Nat.toDigits 16 n
  String.ofList (List.replicate (width - ds.length) '0' ++ ds)

/-- The digits of `n` in base sixteen in capital letters, at least `width` of them. -/
def upper (width n : Nat) : String :=
  (lower width n).toUpper

/-- The value of a digit, in either case. -/
def digit? (c : Char) : Option Nat :=
  if '0' ≤ c ∧ c ≤ '9' then some (c.toNat - 48)
  else if 'A' ≤ c ∧ c ≤ 'F' then some (c.toNat - 55)
  else if 'a' ≤ c ∧ c ≤ 'f' then some (c.toNat - 87)
  else none

end ZipArchive.Hex
