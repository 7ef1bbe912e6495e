import ZipArchive.Extra.Alignment
import ZipArchive.Extra.JarMarker
import ZipArchive.Extra.Opaque
import ZipArchive.Extra.Ownership
import ZipArchive.Extra.Timestamp
import ZipArchive.Extra.UnicodeText
import ZipArchive.Extra.Zip64

/-!
# Extra fields

An `Extra.Field` is one record of any kind. The kinds are the record types of this library, blobs
kept as they are, left-over bytes, and records of a type `κ` of the caller's own choosing. A field is
a record itself: it has the id and the payloads of what it holds.
-/

namespace ZipArchive.Extra

/-- One record of an extra field, where callers may add records of type `κ`. -/
inductive Field (κ : Type) where
  /-- Zip64 extended information. -/
  | zip64 (z : Zip64)
  /-- An extended timestamp. -/
  | timestamp (t : Timestamp)
  /-- The owner and the group of a file. -/
  | ownership (o : Ownership)
  /-- The UTF-8 form of the name. -/
  | unicodePath (u : UnicodeText)
  /-- The UTF-8 form of the comment. -/
  | unicodeComment (u : UnicodeText)
  /-- A request for alignment. -/
  | alignment (a : Alignment)
  /-- The marker of an executable jar. -/
  | jarMarker (m : JarMarker)
  /-- A certificate or encryption record, kept as it is. -/
  | certificate (o : Opaque)
  /-- A record with an unknown id, kept as it is. -/
  | unrecognized (o : Opaque)
  /-- Bytes that form no record. -/
  | leftover (l : Leftover)
  /-- A record of a type of the caller's. -/
  | custom (r : κ)
  /-- A field kept as if it were a record of the caller's, so that its kind is not seen. -/
  | boxed (f : Field κ)
deriving DecidableEq, Repr

namespace Field

variable {κ : Type}

instance : Inhabited (Field κ) := ⟨.leftover {}⟩

/-- Whether the field is bytes that form no record. -/
def isLeftover : Field κ → Bool
  | leftover _ => true
  | _ => false

variable [Record κ]

/-- The id of the record. -/
def id : Field κ → UInt16
  | zip64 z => Record.id z
  | timestamp t => Record.id t
  | ownership o => Record.id o
  | unicodePath _ => UnicodeText.pathId
  | unicodeComment _ => UnicodeText.commentId
  | alignment a => Record.id a
  | jarMarker m => Record.id m
  | certificate o => Record.id o
  | unrecognized o => Record.id o
  | leftover l => Record.id l
  | custom r => Record.id r
  | boxed f => f.id

/-- The payload for a header. -/
def data (place : Place) : Field κ → Bytes
  | zip64 z => Record.data place z
  | timestamp t => Record.data place t
  | ownership o => Record.data place o
  | unicodePath u => u.payload
  | unicodeComment u => u.payload
  | alignment a => Record.data place a
  | jarMarker m => Record.data place m
  | certificate o => Record.data place o
  | unrecognized o => Record.data place o
  | leftover l => Record.data place l
  | custom r => Record.data place r
  | boxed f => f.data place

/-- Reads the payload of a header. -/
def parse (place : Place) (f : Field κ) (buf : Array UInt8) (offset length : Nat) :
    Outcome (Field κ) Unit :=
  match f with
  | zip64 z => (Record.parse place z buf offset length).mapState zip64
  | timestamp t => (Record.parse place t buf offset length).mapState timestamp
  | ownership o => (Record.parse place o buf offset length).mapState ownership
  | unicodePath u => (u.parse UnicodeText.pathId buf offset length).mapState unicodePath
  | unicodeComment u => (u.parse UnicodeText.commentId buf offset length).mapState unicodeComment
  | alignment a => (Record.parse place a buf offset length).mapState alignment
  | jarMarker m => (Record.parse place m buf offset length).mapState jarMarker
  | certificate o => (Record.parse place o buf offset length).mapState certificate
  | unrecognized o => (Record.parse place o buf offset length).mapState unrecognized
  | leftover l => (Record.parse place l buf offset length).mapState leftover
  | custom r => (Record.parse place r buf offset length).mapState custom
  | boxed f => (f.parse place buf offset length).mapState boxed

instance : Record (Field κ) where
  id := id
  localData := data .localHeader
  centralData := data .central
  parseLocal := parse .localHeader
  parseCentral := parse .central

/-- Whether the field is a record with the given id; bytes that form no record have none. -/
def hasId (id : UInt16) (f : Field κ) : Bool :=
  !f.isLeftover && f.id == id

end Field

end ZipArchive.Extra
