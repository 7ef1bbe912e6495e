import Std.Data.HashMap

/-!
# Indexes of multi-byte charsets

An index numbers characters: each has a pointer, from which a charset computes its bytes. Reading
goes from pointers to characters, writing from characters to pointers. Several pointers may share
a character; the writer takes the first of those it is allowed, or the last where the charset
says so.
-/

namespace ZipArchive.Charset

/-- The characters of an index by pointer, and the pointer written for a character. -/
structure Index where
  /-- The characters in the order of their pointers; a full stop where there is none. -/
  chars : Array Char
  /-- The pointers that writing uses, by code point. -/
  pointers : Std.HashMap Nat Nat

namespace Index

/-- The index with the given rows, writing those pointers that satisfy `allowed`, and the last
such pointer for the characters that satisfy `takesLast`. -/
def ofRows (rows : List String) (allowed : Nat → Bool := fun _ => true)
    (takesLast : Char → Bool := fun _ => false) : Index :=
  let chars := rows.foldl (fun a row => row.foldl Array.push a) #[]
  let add := fun (m, p) (c : Char) =>
    if c = '.' || !allowed p then (m, p + 1)
    else if takesLast c then (Std.HashMap.insert m c.toNat p, p + 1)
    else (Std.HashMap.insertIfNew m c.toNat p, p + 1)
  { chars := chars
    pointers := (chars.foldl add ((∅ : Std.HashMap Nat Nat), 0)).1 }

/-- The character with the given pointer. -/
def char? (i : Index) (pointer : Nat) : Option Char :=
  i.chars[pointer]?.filter (· ≠ '.')

/-- The pointer written for a character. -/
def pointer? (i : Index) (c : Char) : Option Nat :=
  i.pointers[c.toNat]?

end Index

end ZipArchive.Charset
