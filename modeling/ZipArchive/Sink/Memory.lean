import ZipArchive.Bytes.Buffer
import ZipArchive.Sink.Basic

/-!
# The sink in memory

A `MemorySink` holds what was appended, and every append succeeds.
-/

namespace ZipArchive

/-- A sink that keeps its bytes in memory. -/
structure MemorySink where
  /-- The bytes appended so far. -/
  contents : Array UInt8 := #[]
deriving Inhabited

namespace MemorySink

/-- The bytes appended so far, as a byte string. -/
def bytes (s : MemorySink) : Bytes := s.contents.toList

/-- A sink to which `bs` was appended. -/
def ofBytes (bs : Bytes) : MemorySink := ⟨bs.toArray⟩

/-- Appends bytes. -/
def append (s : MemorySink) (data : Bytes) : Outcome MemorySink Nat :=
  (.ok s.contents.size, ⟨s.contents ++ data⟩)

/-- Replaces bytes from `position` on, all of which must have been appended. -/
def patch (s : MemorySink) (position : Nat) (data : Bytes) : Outcome MemorySink Unit :=
  match Sink.patchFault? position data.length s.contents.size with
  | some e => (.error e, s)
  | none => (.ok (), ⟨Buffer.write s.contents position data⟩)

instance : Sink MemorySink where
  position s := s.contents.size
  append := append
  patch := patch
  flush s := (.ok (), s)

@[simp] theorem bytes_append (s : MemorySink) (data : Bytes) :
    (s.append data).2.bytes = s.bytes ++ data := by
  simp [append, bytes]

end MemorySink

end ZipArchive
