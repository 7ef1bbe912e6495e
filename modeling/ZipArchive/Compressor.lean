import ZipArchive.Method
import ZipArchive.Bytes.Basic

/-!
# Compressors

A compressor is a machine that is called with input and room for output, and answers how much
input it took, what it put out and what it needs next. `Codec` bundles the machine with its start
state and the method number that announces it; `Codec.stored` copies.
-/

namespace ZipArchive

/-- What a compressor needs after a call. -/
inductive Compressor.Status where
  /-- More input, all of what was given being taken. -/
  | needsInput
  /-- More room for output. -/
  | needsOutput
  /-- Nothing: the stream is complete. -/
  | done
deriving DecidableEq, Repr

/-- The answer to one call of a compressor. -/
structure Compressor.Step where
  /-- How many bytes of the input were taken. -/
  consumed : Nat
  /-- The bytes put out. -/
  output : Bytes
  /-- What is needed next. -/
  status : Compressor.Status
deriving DecidableEq, Repr

/-- A compression method with a machine for it, whose states are `σ`. -/
structure Codec (σ : Type) where
  /-- The method announced in headers. -/
  method : Method
  /-- The state before the first call. -/
  start : σ
  /-- One call: the state, the input, the room for output, and whether no input follows. -/
  compress : σ → Bytes → Nat → Bool → Except Fault (Compressor.Step × σ)

namespace Codec

/-- Copies as much of the input as there is room for. -/
def copy (input : Bytes) (room : Nat) (finish : Bool) : Compressor.Step :=
  { consumed := min input.length room
    output := input.take room
    status :=
      if room < input.length then .needsOutput else if finish then .done else .needsInput }

/-- The codec that copies, announced as `method`. -/
def storedAs (method : Method) : Codec Unit where
  method := method
  start := ()
  compress := fun _ input room finish => .ok (copy input room finish, ())

/-- The stored method. -/
def stored : Codec Unit := storedAs .stored

end Codec

end ZipArchive
