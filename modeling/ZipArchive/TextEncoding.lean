import ZipArchive.Charset.Labels
import ZipArchive.Text.Escape
import ZipArchive.Text.Printable

/-!
# Text encodings

A `TextEncoding` is a charset with a policy for what the charset cannot hold. Under the strict
policy that is an error. Under the fallback policy unmappable characters are written as escapes,
malformed bytes are read as replacement characters, and a percent sign that would look like the
start of an escape is written as an escape itself, so that every text reads back. UTF-8 holds every
character and knows no escapes.
-/

namespace ZipArchive

/-- What is done about text or bytes that do not fit the charset. -/
inductive TextEncoding.Policy where
  /-- They are an error. -/
  | strict
  /-- Characters are escaped, bytes replaced. -/
  | fallback
deriving DecidableEq, Repr, Inhabited

/-- A charset with a policy. -/
structure TextEncoding where
  /-- The charset. -/
  charset : Charset := .utf8
  /-- The policy. -/
  policy : TextEncoding.Policy := .fallback

namespace TextEncoding

/-- UTF-8 with a policy. -/
def utf8 (policy : Policy) : TextEncoding := { charset := .utf8, policy := policy }

/-- The name of the charset. -/
def name (e : TextEncoding) : String := e.charset.name

/-- Whether the charset is UTF-8. -/
def isUtf8 (e : TextEncoding) : Bool := e.charset.isUtf8

/-- Whether text is written and read with escapes. -/
def escapes (e : TextEncoding) : Bool := e.policy = .fallback && !e.isUtf8

/-! ### Labels -/

/-- Whether a character is white space around a label (`White_Space`). -/
def isBlank (c : Char) : Bool :=
  let n := c.toNat
  (9 ≤ n && n ≤ 13) || n = 0x20 || n = 0x85 || n = 0xA0 || n = 0x1680 || (0x2000 ≤ n && n ≤ 0x200A)
    || n = 0x2028 || n = 0x2029 || n = 0x202F || n = 0x205F || n = 0x3000

/-- A label without white space around it and with ASCII letters made small. -/
def normalizeLabel (label : String) : String :=
  let core := (label.toList.dropWhile isBlank).reverse.dropWhile isBlank
  String.ofList (core.reverse.map Char.toLower)

/-- The encoding with the charset of a label. -/
def ofLabel (label : String) (policy : Policy) : Except Fault TextEncoding :=
  match Charset.Labelled.find? (normalizeLabel label) with
  | none => .error (.encoding label 0 "unknown charset label")
  | some (.readOnly name) => .error (.encoding name 0 "charset cannot be used for entry names")
  | some (.charset c) => .ok { charset := c, policy := policy }

/-! ### Writing -/

/-- Whether the charset holds every character of a text, whatever the policy. -/
def canEncode (e : TextEncoding) (text : String) : Bool :=
  e.isUtf8 || text.toList.all e.charset.mapsExactly

/-- Writes ASCII characters while `set` is designated, onto the bytes `out` in reverse. -/
def writeAscii (c : Charset) (set : Charset.Designation) (text : List Char) (out : Bytes) :
    Charset.Designation × Bytes :=
  text.foldl (fun (set, out) ch =>
    match c.write set ch with
    | some (bs, new) => (new, bs.reverseAux out)
    | none => (set, out)) (set, out)

/-- The number of characters before the last `size` bytes of a text, which is given in reverse.
There is none if the text has fewer bytes, or if the last ones start inside a character. -/
def countBack (size : Nat) (before : List Char) : Option Nat :=
  match size, before with
  | 0, before => some before.length
  | _ + 1, [] => none
  | more + 1, c :: before =>
    let width := (Charset.Utf8.ofChar c).length
    if width ≤ more + 1 then countBack (more + 1 - width) before else none

/-- The fault of a character at a position. -/
def unmappable (e : TextEncoding) (position : Nat) (c : Char) : Fault :=
  .encoding e.name position
    s!"character {Printable.quoted c} (U+{Hex.upper 4 c.toNat}) is not representable"

/-- The fault of a control character that ISO-2022-JP does not write, `before` being the text up to
and including it in reverse.

The replacement character stands in for it, and the bytes that this would take are counted back from
the end of the text so far. Where they are more than there are, or start inside a character, there
is no position to be reported, and the program stops. -/
def refusal (e : TextEncoding) (before : List Char) : Fault :=
  match countBack (Charset.Utf8.ofChar '\uFFFD').length before with
  | some position => e.unmappable position '\uFFFD'
  | none => .crash

/-- Writes `text` while `set` is designated, where `before` is the text before in reverse and `out`
its bytes in reverse.

Under the fallback policy nobody asks for the position of a control character that ISO-2022-JP does
not write. Here it is not counted either; a build that checks its arithmetic counts it, and stops
where there are fewer than three bytes to count. -/
def encode.go (e : TextEncoding) (set : Charset.Designation) (before : List Char) (out : Bytes)
    (text : List Char) : Except Fault Bytes :=
  match text with
  | [] => .ok (out.reverse ++ e.charset.close set)
  | c :: rest =>
    let escape := fun ch =>
      let (new, out) := writeAscii e.charset set (Escape.ofChar ch) out
      encode.go e new (c :: before) out rest
    if e.escapes && c = '%' && (Escape.unit? (c :: rest)).isSome then escape '%'
    else if e.charset.mapsExactly c then
      match e.charset.write set c with
      | some (bs, new) => encode.go e new (c :: before) (bs.reverseAux out) rest
      | none =>
        if e.policy = .strict then .error (e.refusal (c :: before)) else escape '\uFFFD'
    else if e.policy = .strict then .error (e.unmappable before.length c)
    else escape c

/-- The bytes of a text. -/
def encode (e : TextEncoding) (text : String) : Except Fault Bytes :=
  if e.isUtf8 then .ok (Charset.Utf8.ofText text.toList)
  else encode.go e .ascii [] [] text.toList

/-! ### Reading -/

/-- The text of bytes. -/
def decode (e : TextEncoding) (bs : Bytes) : Except Fault String :=
  match e.policy with
  | .strict =>
    match e.charset.decode bs with
    | .ok text => .ok (String.ofList text)
    | .error (position, size) =>
      .error (.encoding e.name position s!"malformed byte sequence of length {size}")
  | .fallback =>
    let text := e.charset.decodeLossy bs
    .ok (String.ofList (if e.escapes then Escape.unescape text else text))

end TextEncoding

end ZipArchive
