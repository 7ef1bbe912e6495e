import Mathlib.Data.List.Forall2
import ZipArchive.Proofs.LittleEndian

/-!
# Taking values off the front of bytes

A reader of an archive takes numbers and runs of bytes off the front of what it is given. `Take` is
the type of such steps, and `Take.Takes t bs a` says that the step `t` takes the bytes `bs` for the
value `a`, whatever follows them. There is one rule for each step and one for each way to put steps
together, so that what a step takes for a header is shown field by field.
-/

namespace ZipArchive

/-- A step of a reader: a value and the bytes behind it, if the bytes start with one. -/
abbrev Take (α : Type) := StateT Bytes Option α

namespace Take

variable {α β : Type}

/-- The next `n` bytes. -/
def bytes (n : Nat) : Take Bytes := fun input =>
  if n ≤ input.length then some (input.take n, input.drop n) else none

/-- The number in the next `w` bytes. -/
def number (w : Nat) : Take Nat := Bytes.ofLE <$> bytes w

/-- The number in the next two bytes. -/
def word16 : Take UInt16 := UInt16.ofNat <$> number 2

/-- The number in the next four bytes. -/
def word32 : Take UInt32 := UInt32.ofNat <$> number 4

/-- The number in the next eight bytes. -/
def word64 : Take UInt64 := UInt64.ofNat <$> number 8

/-- Nothing, but the next four bytes have to be the given number. -/
def expect (n : UInt32) : Take Unit := do
  guard ((← word32) = n)

/-- As many values as said, one behind the other. -/
def times (t : Take α) : Nat → Take (List α)
  | 0 => pure []
  | n + 1 => do
    let a ← t
    let as ← times t n
    return a :: as

/-! ### What steps take -/

/-- The step takes the bytes for the value, whatever follows. -/
def Takes (t : Take α) (bs : Bytes) (a : α) : Prop :=
  ∀ rest, t.run (bs ++ rest) = some (a, rest)

namespace Takes

variable {t : Take α} {bs cs : Bytes} {a : α} {b : β}

theorem pure (a : α) : (Pure.pure a : Take α).Takes [] a := fun _ => rfl

theorem bind {f : α → Take β} (h : t.Takes bs a) (h' : (f a).Takes cs b) :
    (t >>= f).Takes (bs ++ cs) b := by
  intro rest
  rw [StateT.run_bind, List.append_assoc, h]
  exact h' rest

private theorem map {f : α → β} (h : t.Takes bs a) : (f <$> t).Takes bs (f a) := by
  intro rest
  rw [StateT.run_map, h]
  rfl

/-- The last of several steps. -/
theorem bind_pure {f : α → β} (h : t.Takes bs a) :
    (t >>= fun x => Pure.pure (f x)).Takes bs (f a) := by
  rw [bind_pure_comp]
  exact h.map

theorem bytes {n : Nat} (h : bs.length = n) : (Take.bytes n).Takes bs bs := by
  intro rest
  subst h
  simp [Take.bytes, StateT.run]

theorem number (w n : Nat) (h : n < 256 ^ w) : (Take.number w).Takes (Bytes.toLE w n) n := by
  have hvalue : Bytes.ofLE (Bytes.toLE w n) = n := by
    rw [Bytes.ofLE_toLE, Nat.mod_eq_of_lt h]
  have htake := (Takes.bytes (Bytes.length_toLE w n)).map (f := Bytes.ofLE)
  rwa [hvalue] at htake

theorem word16 (n : UInt16) : Take.word16.Takes (bytes16 n) n := by
  have htake := (Takes.number 2 n.toNat n.toNat_lt).map (f := UInt16.ofNat)
  rwa [UInt16.ofNat_toNat] at htake

theorem word32 (n : UInt32) : Take.word32.Takes (bytes32 n) n := by
  have htake := (Takes.number 4 n.toNat n.toNat_lt).map (f := UInt32.ofNat)
  rwa [UInt32.ofNat_toNat] at htake

theorem word64 (n : UInt64) : Take.word64.Takes (bytes64 n) n := by
  have htake := (Takes.number 8 n.toNat n.toNat_lt).map (f := UInt64.ofNat)
  rwa [UInt64.ofNat_toNat] at htake

theorem expect (n : UInt32) : (Take.expect n).Takes (bytes32 n) () := by
  intro rest
  rw [Take.expect, StateT.run_bind, Takes.word32 n rest]
  simp [guard]

/-- Values that stand one behind the other are taken one after the other. -/
theorem times {as : List α} {parts : List Bytes}
    (h : List.Forall₂ (fun a bs => t.Takes bs a) as parts) :
    (Take.times t as.length).Takes parts.flatten as := by
  induction h with
  | nil => exact .pure []
  | cons hhead _ ih => exact .bind hhead ih.bind_pure

end Takes

end Take

end ZipArchive
