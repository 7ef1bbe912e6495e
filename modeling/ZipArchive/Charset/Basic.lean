import ZipArchive.Charset.CodePage
import ZipArchive.Charset.EastAsian
import ZipArchive.Charset.Iso2022Jp
import ZipArchive.Charset.Utf8

/-!
# Charsets

A charset gives characters a byte form. `Charset.readings` cuts bytes into units, `Charset.write`
gives the bytes of the next character, and `Charset.mapsExactly` says of which characters the bytes
read back: charsets write some characters with the bytes of another.
-/

namespace ZipArchive

open Charset in
/-- A charset that text can be written in. -/
inductive Charset where
  /-- UTF-8. -/
  | utf8
  /-- A charset of single bytes. -/
  | page (p : CodePage)
  /-- Shift_JIS. -/
  | shiftJis
  /-- EUC-JP. -/
  | eucJp
  /-- ISO-2022-JP. -/
  | iso2022Jp
  /-- EUC-KR. -/
  | eucKr
  /-- Big5. -/
  | big5
  /-- GBK. -/
  | gbk
  /-- GB 18030. -/
  | gb18030

namespace Charset

/-- The canonical name. -/
def name : Charset → String
  | utf8 => "UTF-8"
  | page p => p.name
  | shiftJis => "Shift_JIS"
  | eucJp => "EUC-JP"
  | iso2022Jp => "ISO-2022-JP"
  | eucKr => "EUC-KR"
  | big5 => "Big5"
  | gbk => "GBK"
  | gb18030 => "gb18030"

/-- Whether the charset is UTF-8. -/
def isUtf8 : Charset → Bool
  | utf8 => true
  | _ => false

/-- Reads the unit that starts with `b` while `set` is designated. -/
def read (c : Charset) (set : Designation) (b : UInt8) (rest : Bytes) : Reading :=
  match c with
  | utf8 => Utf8.read b rest
  | page p => p.read b
  | shiftJis => ShiftJis.read b rest
  | eucJp => EucJp.read b rest
  | iso2022Jp => Iso2022Jp.read set b rest
  | eucKr => EucKr.read b rest
  | big5 => Big5.read b rest
  | gbk => Gb18030.read b rest
  | gb18030 => Gb18030.read b rest

/-- The bytes of a character while `set` is designated, and the set designated after it. -/
def write (c : Charset) (set : Designation) (ch : Char) : Option (Bytes × Designation) :=
  match c with
  | utf8 => some (Utf8.ofChar ch, .ascii)
  | page p => (p.byte? ch).map fun b => ([b], .ascii)
  | shiftJis => (ShiftJis.write ch).map fun bs => (bs, .ascii)
  | eucJp => (EucJp.write ch).map fun bs => (bs, .ascii)
  | iso2022Jp => Iso2022Jp.write set ch
  | eucKr => (EucKr.write ch).map fun bs => (bs, .ascii)
  | big5 => (Big5.write ch).map fun bs => (bs, .ascii)
  | gbk => (Gb18030.writeGbk ch).map fun bs => (bs, .ascii)
  | gb18030 => (Gb18030.write ch).map fun bs => (bs, .ascii)

/-- The bytes that end a text while `set` is designated. -/
def close (c : Charset) (set : Designation) : Bytes :=
  match c with
  | iso2022Jp => Iso2022Jp.close set
  | _ => []

/-! ### Reading -/

/-- The units of `bs` while `set` is designated, before which those of `acc` were read in reverse. -/
def readings.go (c : Charset) (set : Designation) (bs : Bytes) (acc : List Reading) :
    List Reading :=
  match bs with
  | [] => acc.reverse
  | b :: rest =>
    let r := c.read set b rest
    readings.go c r.after (rest.drop (r.size - 1)) (r :: acc)
termination_by bs.length
decreasing_by simp only [List.length_drop, List.length_cons]; omega

/-- The units of encoded text, from the first byte to the last. -/
def readings (c : Charset) (bs : Bytes) : List Reading :=
  readings.go c .ascii bs []

/-- The characters of encoded text, with a replacement character for each malformed unit. -/
def decodeLossy (c : Charset) (bs : Bytes) : List Char :=
  (c.readings bs).flatMap Reading.replaced

/-- The offset and the size of the first malformed unit, `offset` bytes being before the list. -/
def firstMalformed? (offset : Nat) : List Reading → Option (Nat × Nat)
  | [] => none
  | r :: rs => if r.text?.isNone then some (offset, r.size) else firstMalformed? (offset + r.size) rs

/-- The characters of encoded text, or the offset and the size of its first malformed unit. -/
def decode (c : Charset) (bs : Bytes) : Except (Nat × Nat) (List Char) :=
  let rs := c.readings bs
  match firstMalformed? 0 rs with
  | some bad => .error bad
  | none => .ok (rs.flatMap Reading.replaced)

/-! ### Writing -/

/-- Whether a character has bytes that read back as that character alone. -/
def mapsExactly (c : Charset) (ch : Char) : Bool :=
  c.isUtf8 || ch.toNat < 0x80 ||
    match c.write .ascii ch with
    | none => false
    | some (bs, set) =>
      match c.decode (bs ++ c.close set) with
      | .ok text => text = [ch]
      | .error _ => false

end Charset

end ZipArchive
