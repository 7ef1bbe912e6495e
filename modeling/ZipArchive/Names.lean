import ZipArchive.Entry
import ZipArchive.TextEncoding

/-!
# Names and comments in headers

An archive has one text encoding for names and comments. Where a name does not fit it, an entry may
be switched to UTF-8, which a flag tells readers, and records with the UTF-8 form may be put beside
name and comment. `Entry.encodeText` does so for a writer, and `decodeText` is what a reader does.
-/

namespace ZipArchive

open Extra (FieldList Record UnicodeText)

/-- When records with the UTF-8 form of a text are written. -/
inductive UnicodeRecords where
  /-- Not at all. -/
  | never
  /-- For every text. -/
  | always
  /-- For texts that the charset of the archive does not hold. -/
  | whenNeeded
deriving DecidableEq, Repr, Inhabited

/-- Whether a record is written for a text, given whether the charset holds it. -/
def UnicodeRecords.apply (p : UnicodeRecords) (encodable : Bool) : Bool :=
  match p with
  | never => false
  | always => true
  | whenNeeded => !encodable

/-- How names and comments are written. -/
structure NameOptions where
  /-- The encoding of the archive. -/
  encoding : TextEncoding := {}
  /-- Whether the flag is set when the encoding is UTF-8. -/
  utf8Flag : Bool := true
  /-- Whether entries with a name that does not fit are switched to UTF-8. -/
  fallbackToUtf8 : Bool := false
  /-- When records with the UTF-8 form are written. -/
  unicodeRecords : UnicodeRecords := .never

/-- The bytes of the name and the comment of an entry. -/
structure EncodedText where
  /-- The bytes of the name. -/
  name : Bytes
  /-- The bytes of the comment. -/
  comment : Bytes
  /-- The encoding that was used. -/
  encoding : TextEncoding

/-- The name and the comment of an entry as read from its header. -/
structure DecodedText where
  /-- The name. -/
  name : String
  /-- The comment. -/
  comment : String
deriving DecidableEq, Repr

variable {κ : Type}

namespace Entry

variable [Record κ]

/-- The comment, empty if there is none. -/
def commentText (e : Entry κ) : String := e.comment?.getD ""

/-- Adds the record with the UTF-8 form of a name. -/
def addUnicodePath (e : Entry κ) (raw : Bytes) : Entry κ :=
  e.addExtra (.unicodePath (.ofText e.name raw))

/-- Adds the record with the UTF-8 form of a comment. -/
def addUnicodeComment (e : Entry κ) (raw : Bytes) : Entry κ :=
  e.addExtra (.unicodeComment (.ofText e.commentText raw))

/-- The bytes of the name and the comment, and the entry with the flag and the records that go with
them. -/
def encodeText (e : Entry κ) (o : NameOptions) : Outcome (Entry κ) EncodedText :=
  let nameFits := o.encoding.canEncode e.name
  let commentFits := o.encoding.canEncode e.commentText
  let switched := !nameFits && o.fallbackToUtf8
  let encoding := if switched then .utf8 o.encoding.policy else o.encoding
  match encoding.encode e.name, encoding.encode e.commentText with
  | .ok name, .ok comment =>
    let flagged := encoding.isUtf8 && (o.utf8Flag || switched)
    let e := { e with flags := { e.flags with utf8Names := flagged } }
    let e := if o.unicodeRecords.apply nameFits then e.addUnicodePath name else e
    let e :=
      if !e.commentText.isEmpty && o.unicodeRecords.apply commentFits then
        e.addUnicodeComment comment
      else e
    (.ok { name, comment, encoding }, e)
  | .error fault, _ => (.error fault, e)
  | _, .error fault => (.error fault, e)

end Entry

/-! ### Reading -/

/-- The text for a name in the first record that is about it. -/
def unicodePath? (extra : FieldList κ) (raw : Bytes) : Option String :=
  extra.findSome? fun
    | .unicodePath u => u.textFor? raw
    | _ => none

/-- The text for a comment in the first record that is about it. -/
def unicodeComment? (extra : FieldList κ) (raw : Bytes) : Option String :=
  extra.findSome? fun
    | .unicodeComment u => u.textFor? raw
    | _ => none

/-- The name and the comment for the bytes of a header. They are UTF-8 if the flag says so.
Otherwise a record that is about the bytes goes before the encoding `legacy`. -/
def decodeText (name comment : Bytes) (flags : Flags) (extra : FieldList κ)
    (legacy : TextEncoding) : Except Fault DecodedText := do
  if flags.utf8Names then
    let utf8 := TextEncoding.utf8 legacy.policy
    return { name := ← utf8.decode name, comment := ← utf8.decode comment }
  else
    let nameText ←
      match unicodePath? extra name with
      | some text => pure text
      | none => legacy.decode name
    let commentText ←
      match if comment.isEmpty then none else unicodeComment? extra comment with
      | some text => pure text
      | none => legacy.decode comment
    return { name := nameText, comment := commentText }

end ZipArchive
