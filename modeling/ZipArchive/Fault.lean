import ZipArchive.Text.Hex

/-!
# Faults

Everything that can go wrong while records are read, text is converted or an archive is written.
A `Fault` is a cause; `Fault.message` is the only place that puts a cause into words. All causes are
errors that a caller is told of but for `Fault.crash`, with which the program stops.
-/

namespace ZipArchive

/-- The cause of a failed operation. -/
inductive Fault where
  /-- An input or output operation failed for the given reason. -/
  | io (reason : String)
  /-- The file to be opened does not exist. -/
  | notFound
  /-- `need` bytes were wanted at `offset`, where the buffer holds only `available` more. -/
  | bounds (offset need available : Nat)
  /-- The payload of the record with this id is not of the record's form. -/
  | malformedRecord (id : UInt16) (reason : String)
  /-- Text or bytes do not fit the charset, at a position counted in the units of the input. -/
  | encoding (charset : String) (position : Nat) (reason : String)
  /-- A patch of `length` bytes at `position` leaves the `limit` bytes written so far. -/
  | outOfBounds (position length limit : Nat)
  /-- From `offset` on, `remaining` bytes of extra field data form no record. -/
  | unparseableTrailingBytes (offset remaining : Nat)
  /-- A header cannot be written. -/
  | invalidHeader (reason : String)
  /-- A payload could not be carried through its compressor. -/
  | pipeline (reason : String)
  /-- No error: a step has no result, and the program stops there. No supplier and no payload fails
  with it. -/
  | crash
deriving DecidableEq, Repr

namespace Fault

/-- The fault in words. -/
def message : Fault → String
  | io reason => "I/O error: " ++ reason
  | notFound => "I/O error: entity not found"
  | bounds offset need available =>
    s!"Insufficient bytes at offset {offset}: need {need}, have {available}"
  | malformedRecord id reason => s!"Malformed extra field 0x{Hex.lower 4 id.toNat}: {reason}"
  | encoding charset position reason =>
    s!"Encoding error ({charset}) at position {position}: {reason}"
  | outOfBounds position length limit =>
    s!"Patch of {length} bytes at position {position} exceeds written limit {limit}"
  | unparseableTrailingBytes offset remaining =>
    s!"Unparseable extra field data at offset {offset}: {remaining} trailing bytes"
  | invalidHeader reason => "Invalid header: " ++ reason
  | pipeline reason => "Pipeline error: " ++ reason
  | crash => "The program stopped"

/-- A sink of fixed size took only part of what was to be written. -/
def truncatedWrite : Fault :=
  io "failed to write whole buffer"

end Fault

/-- The result of an operation on a state that keeps the state also when it fails. -/
abbrev Outcome (σ α : Type) := Except Fault α × σ

namespace Outcome

/-- Replaces the state by the result, or keeps the state that was when there is none. -/
def ofExcept {σ : Type} (s : σ) : Except Fault σ → Outcome σ Unit
  | .ok t => (.ok (), t)
  | .error e => (.error e, s)

@[simp] theorem ofExcept_ok {σ : Type} (s t : σ) : ofExcept s (.ok t) = (.ok (), t) := rfl

@[simp] theorem ofExcept_error {σ : Type} (s : σ) (e : Fault) :
    ofExcept s (.error e) = (.error e, s) := rfl

/-- Applies a function to the state of an outcome. -/
def mapState {σ τ α : Type} (f : σ → τ) (o : Outcome σ α) : Outcome τ α :=
  (o.1, f o.2)

end Outcome

end ZipArchive
