import ZipArchive.Sink.Memory

/-!
# Sinks that continue

A `ContinuedSink` goes on where `base` bytes were appended before, and holds only what was appended
since. What came before is out of reach: a patch of it is refused.
-/

namespace ZipArchive

/-- A sink in memory whose positions start at `base`. -/
structure ContinuedSink where
  /-- The number of bytes before. -/
  base : Nat
  /-- What was appended since. -/
  tail : MemorySink := {}

namespace ContinuedSink

/-- The number of bytes before and since. -/
def position (s : ContinuedSink) : Nat := s.base + s.tail.contents.size

/-- Appends bytes. -/
def append (s : ContinuedSink) (data : Bytes) : Outcome ContinuedSink Nat :=
  (.ok s.position, { s with tail := (s.tail.append data).2 })

/-- Replaces bytes appended since. -/
def patch (s : ContinuedSink) (position : Nat) (data : Bytes) : Outcome ContinuedSink Unit :=
  if s.base ≤ position ∧ position + data.length ≤ s.position then
    (.ok (), { s with tail := (s.tail.patch (position - s.base) data).2 })
  else (.error (.outOfBounds position data.length s.position), s)

instance : Sink ContinuedSink where
  position := position
  append := append
  patch := patch
  flush s := (.ok (), s)

end ContinuedSink

end ZipArchive
