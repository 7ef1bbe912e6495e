import ZipArchive.Bytes.Buffer

/-!
# Files with a cursor

A `File` is a byte string with a cursor at which the next write happens. Writing moves the cursor
behind the bytes written. A growable file takes any write; one of fixed size takes the bytes that
fit and fails when that is not all of them.
-/

namespace ZipArchive

/-- A file and the position of its cursor. -/
structure File where
  /-- The bytes of the file. -/
  contents : Array UInt8
  /-- Where the next write goes. -/
  cursor : Nat
  /-- Whether writes may make the file longer. -/
  growable : Bool := true

namespace File

/-- The bytes of the file, as a byte string. -/
def bytes (f : File) : Bytes := f.contents.toList

/-- Moves the cursor. -/
def seek (f : File) (position : Nat) : File :=
  { f with cursor := position }

/-- The part of `data` that a write can store. -/
def fitting (f : File) (data : Bytes) : Bytes :=
  if f.growable then data else data.take (f.contents.size - f.cursor)

/-- Stores `data` at the cursor, as far as it fits. -/
def store (f : File) (data : Bytes) : File :=
  { f with
    contents := Buffer.write f.contents f.cursor data
    cursor := f.cursor + data.length }

/-- Writes at the cursor; a file of fixed size keeps the part that fits. -/
def write (f : File) (data : Bytes) : Outcome File Unit :=
  let part := f.fitting data
  if f.growable then (.ok (), f.store part)
  else if part.length = data.length then (.ok (), if part.isEmpty then f else f.store part)
  else (.error .truncatedWrite, if part.isEmpty then f else f.store part)

end File

end ZipArchive
