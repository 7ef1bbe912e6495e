import ZipArchive.Calendar
import ZipArchive.Extra.FieldList
import ZipArchive.Flags
import ZipArchive.Method

/-!
# Entries

An entry is what an archive says about one file or directory: its name, the way it is stored and
the facts that the headers give of it, among them the list of extra fields.
-/

namespace ZipArchive

open Extra (FieldList Place Record Registry)

/-- One file or directory, with extra fields that may hold records of type `κ`. -/
structure Entry (κ : Type) where
  /-- The name; that of a directory ends with a slash. -/
  name : String
  /-- The comment. -/
  comment? : Option String := none
  /-- Whether the entry is a directory. -/
  isDirectory : Bool := false
  /-- The compression method. -/
  method : Method := .stored
  /-- The size of the data, if it is known in advance. -/
  size? : Option UInt64 := none
  /-- The time of the last modification, in seconds since the start of 1970. -/
  modified? : Option Int := none
  /-- The mode of the file, its type included. -/
  mode? : Option UInt32 := none
  /-- The flags. -/
  flags : Flags := {}
  /-- The extra fields. -/
  extra : FieldList κ := []

namespace Entry

variable {κ : Type}

/-- A file. -/
def file (name : String) : Entry κ := { name }

/-- A directory. A slash is put at the end of a name that has none. -/
def directory (name : String) : Entry κ where
  name := if name.endsWith "/" then name else name ++ "/"
  isDirectory := true
  size? := some 0

/-- The mode of a file for which none is given, a regular file that its owner may write. -/
def defaultFileMode : UInt32 := 0o100644

/-- The mode of a directory for which none is given. -/
def defaultDirectoryMode : UInt32 := 0o40755

/-- The external attributes: the mode in the upper half, and the directory bit in the lower. -/
def externalAttributes (e : Entry κ) : UInt32 :=
  let mode := e.mode?.getD (if e.isDirectory then defaultDirectoryMode else defaultFileMode)
  (mode <<< 16) ||| (if e.isDirectory then 0x10 else 0)

/-- The time of modification in the form of the headers. -/
def dosTime (e : Entry κ) : DosTime :=
  DosTime.ofSeconds? e.modified?

variable [Record κ]

/-- Adds an extra field. -/
def addExtra (e : Entry κ) (f : Extra.Field κ) : Entry κ :=
  { e with extra := e.extra.add f }

/-- Removes the record with an id. -/
def removeExtra (e : Entry κ) (id : UInt16) : Entry κ :=
  { e with extra := e.extra.remove id }

/-- Removes the record with an id, and answers it if there is one. -/
def takeOutExtra (e : Entry κ) (id : UInt16) : Option (Extra.Field κ) × Entry κ :=
  let (found?, fields) := e.extra.takeOut id
  (found?, { e with extra := fields })

/-- Replaces the extra fields by those of a local header. -/
def setLocalExtra (e : Entry κ) (reg : Registry κ) (stream : Bytes) : Outcome (Entry κ) Unit :=
  Outcome.ofExcept e do
    let fields ← reg.parse .localHeader .keep stream
    return { e with extra := fields }

/-- Brings in the extra fields of a central header. -/
def mergeCentralExtra (e : Entry κ) (reg : Registry κ) (stream : Bytes) :
    Outcome (Entry κ) Unit :=
  (e.extra.mergeCentral reg stream).mapState fun fields => { e with extra := fields }

/-- The extra field stream for a header. -/
def extraData (place : Place) (e : Entry κ) : Except Fault Bytes :=
  Extra.merge place e.extra

end Entry

end ZipArchive
