import ZipArchive.Entry
import ZipArchive.Payload

/-!
# Submissions

An entry is submitted to an archive together with its data. Submissions come one by one, from
suppliers that may fail, or in runs; a queue of them is written in order.
-/

namespace ZipArchive

/-- An entry and its data. -/
structure Submission (κ : Type) where
  /-- The entry. -/
  entry : Entry κ
  /-- What opening the data gives. -/
  payload : Payload

/-- Where submissions come from. -/
inductive Source (κ : Type) where
  /-- One submission. -/
  | one (s : Submission κ)
  /-- A supplier of one submission, and what it comes to. -/
  | supplied (s : Except Fault (Submission κ))
  /-- All submissions of a producer. -/
  | many (ss : List (Submission κ))

namespace Submission

variable {κ : Type}

/-- An entry with data in memory, the size of which is noted in the entry. -/
def ofBytes (entry : Entry κ) (bs : Bytes) : Submission κ where
  entry := { entry with size? := some (UInt64.ofNat bs.length) }
  payload := .ofBytes bs

/-- An entry without data. -/
def withoutData (entry : Entry κ) : Submission κ where
  entry := entry
  payload := .empty

end Submission

/-- The submissions of a source, each with what its supplier came to. -/
def Source.submissions {κ : Type} : Source κ → List (Except Fault (Submission κ))
  | one s => [.ok s]
  | supplied s => [s]
  | many ss => ss.map .ok

end ZipArchive
