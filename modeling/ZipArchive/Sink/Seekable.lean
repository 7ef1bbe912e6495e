import ZipArchive.Sink.Basic
import ZipArchive.Sink.File

/-!
# The sink over a file

A `SeekableSink` appends at the cursor of a file and patches by moving the cursor to the span and
back behind the last append. Its position 0 is where the cursor stood when the file was wrapped,
so an archive can start in the middle of a file.
-/

namespace ZipArchive

/-- A sink over a file. -/
structure SeekableSink where
  /-- The file written to. -/
  file : File
  /-- The place of position 0 in the file. -/
  origin : Nat
  /-- The number of bytes appended. -/
  position : Nat := 0

namespace SeekableSink

/-- Wraps a file, with position 0 at its cursor. -/
def ofFile (f : File) : SeekableSink where
  file := f
  origin := f.cursor

/-- Appends at the cursor of the file. A failed append leaves the position as it was. -/
def append (s : SeekableSink) (data : Bytes) : Outcome SeekableSink Nat :=
  match s.file.write data with
  | (.ok (), f) => (.ok s.position, { s with file := f, position := s.position + data.length })
  | (.error e, f) => (.error e, { s with file := f })

/-- Replaces bytes appended before, and puts the cursor back behind the last append. -/
def patch (s : SeekableSink) (position : Nat) (data : Bytes) : Outcome SeekableSink Unit :=
  match Sink.patchFault? position data.length s.position with
  | some e => (.error e, s)
  | none =>
    match (s.file.seek (s.origin + position)).write data with
    | (.ok (), f) => (.ok (), { s with file := f.seek (s.origin + s.position) })
    | (.error e, f) => (.error e, { s with file := f })

instance : Sink SeekableSink where
  position := position
  append := append
  patch := patch
  flush s := (.ok (), s)

end SeekableSink

end ZipArchive
