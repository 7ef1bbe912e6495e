import ZipArchive.Bytes.Basic

/-!
# Sinks

A sink takes bytes in order and lets bytes taken earlier be patched. Positions count what was
appended. An archive writer needs no more of its target than this.
-/

namespace ZipArchive

/-- Targets that bytes can be appended to and patched in. -/
class Sink (σ : Type) where
  /-- The number of bytes appended so far, which is where the next ones go. -/
  position : σ → Nat
  /-- Appends bytes and answers the position of the first. -/
  append : σ → Bytes → Outcome σ Nat
  /-- Replaces bytes that were appended before, from the given position on. -/
  patch : σ → Nat → Bytes → Outcome σ Unit
  /-- Hands on what was written to the underlying target. -/
  flush : σ → Outcome σ Unit

namespace Sink

/-- The fault of patching `length` bytes at `position` when `limit` bytes were appended, if they do
not all lie before the limit. -/
def patchFault? (position length limit : Nat) : Option Fault :=
  if position + length ≤ limit then none else some (.outOfBounds position length limit)

theorem patchFault?_eq_none_iff {position length limit : Nat} :
    patchFault? position length limit = none ↔ position + length ≤ limit := by
  simp [patchFault?]

end Sink

end ZipArchive
