import ZipArchive.Proofs.Extra.Reparsing

/-!
# Records that refuse a payload

A record that refuses a payload stays as it was, wherever it finds fault with it: `Outcome.FailsIn`
says so of any operation, and it holds of all records of this library but one. A Zip64 record is
emptied before the length of a local payload is looked at, so that a payload of a wrong length costs
it the values that it had, `Zip64.failsIn_parseLocal`. A span that leaves the buffer is refused
before that, and the central payload, read or read again, is looked at before anything is changed.
So `Field.parse_error_leaves` says what a record is after a payload was refused, and
`parse_sampleSizes` is a record that is not what it was.
-/

namespace ZipArchive

namespace Outcome

/-- If the operation fails, the state is the given one. -/
def FailsIn {σ α : Type} (s : σ) (o : Outcome σ α) : Prop :=
  ∀ e t, o = (.error e, t) → t = s

section FailsIn

variable {σ τ α : Type} {s : σ}

private theorem failsIn_ok (s t : σ) (a : α) : FailsIn s (.ok a, t) := by
  rintro _ _ ⟨⟩

private theorem failsIn_error (s : σ) (e : Fault) : FailsIn s ((.error e, s) : Outcome σ α) := by
  rintro _ _ ⟨⟩
  rfl

private theorem failsIn_ofExcept (s : σ) (x : Except Fault σ) : FailsIn s (ofExcept s x) := by
  cases x with
  | ok t => exact failsIn_ok s t ()
  | error e => exact failsIn_error s e

private theorem FailsIn.mapState {o : Outcome σ α} (h : FailsIn s o) (f : σ → τ) :
    FailsIn (f s) (o.mapState f) := by
  obtain ⟨result, t⟩ := o
  rintro e _ ⟨⟩
  exact congrArg f (h e t rfl)

end FailsIn

end Outcome

namespace Extra

open Outcome (FailsIn failsIn_ok failsIn_error failsIn_ofExcept)

variable {κ : Type}

/-! ### Payloads in a span -/

/-- A span that leaves the buffer changes nothing, and in the buffer it is up to the reading. -/
theorem failsIn_inSpan {ρ : Type} {r s : ρ} {buf : Array UInt8} {offset length : Nat}
    {read : Bytes → Outcome ρ Unit} (hread : ∀ payload, FailsIn s (read payload)) :
    FailsIn (if offset + length ≤ buf.size then s else r) (inSpan r buf offset length read) := by
  rw [inSpan, Buffer.span]
  split
  case isTrue => exact hread _
  case isFalse => exact failsIn_error r _

/-- A reading that leaves the record as it was does so wherever the span is. -/
theorem failsIn_inSpan_self {ρ : Type} {r : ρ} {buf : Array UInt8} {offset length : Nat}
    {read : Bytes → Outcome ρ Unit} (hread : ∀ payload, FailsIn r (read payload)) :
    FailsIn r (inSpan r buf offset length read) := by
  have h : FailsIn (if offset + length ≤ buf.size then r else r)
      (inSpan r buf offset length read) := failsIn_inSpan hread
  rwa [ite_self] at h

/-- A Zip64 record is emptied before its local payload is looked at. -/
theorem Zip64.failsIn_parse (place : Place) (z : Zip64) (buf : Array UInt8) (offset length : Nat) :
    FailsIn (if place = .localHeader ∧ offset + length ≤ buf.size then {} else z)
      (Record.parse place z buf offset length) := by
  cases place with
  | localHeader =>
    simp only [true_and]
    exact failsIn_inSpan fun payload => failsIn_ofExcept {} (Zip64.ofLocal payload)
  | central =>
    rw [if_neg fun h => nomatch h.1]
    exact failsIn_inSpan_self fun payload => failsIn_ofExcept z (Zip64.ofCentral payload)

private theorem Zip64.failsIn_reparse (z : Zip64) (p : Zip64.Presence) :
    FailsIn z (z.reparse p) := by
  intro e t h
  cases hraw : z.rawCentral? with
  | none =>
    rw [reparse, reparseCentral, hraw] at h
    cases h
  | some raw =>
    have hkept := reparse_of_error hraw (congrArg Prod.fst h)
    rwa [h] at hkept

private theorem Timestamp.failsIn_parse (place : Place) (t : Timestamp) (buf : Array UInt8)
    (offset length : Nat) : FailsIn t (Record.parse place t buf offset length) := by
  cases place with
  | localHeader => exact failsIn_ofExcept t _
  | central => exact failsIn_ofExcept t _

private theorem Ownership.failsIn_parse (place : Place) (o : Ownership) (buf : Array UInt8)
    (offset length : Nat) : FailsIn o (Record.parse place o buf offset length) := by
  cases place with
  | localHeader => exact failsIn_ofExcept o _
  | central => exact failsIn_inSpan_self fun _ => failsIn_ok o _ ()

private theorem UnicodeText.failsIn_parse (id : UInt16) (u : UnicodeText) (buf : Array UInt8)
    (offset length : Nat) : FailsIn u (u.parse id buf offset length) :=
  failsIn_inSpan_self fun payload => failsIn_ofExcept u (ofPayload id payload)

private theorem Alignment.failsIn_parse (place : Place) (a : Alignment) (buf : Array UInt8)
    (offset length : Nat) : FailsIn a (Record.parse place a buf offset length) := by
  cases place with
  | localHeader => exact failsIn_ofExcept a _
  | central => exact failsIn_ofExcept a _

private theorem JarMarker.failsIn_parse (m : JarMarker) (length : Nat) :
    FailsIn m (m.parse length) := by
  rw [parse]
  split
  case isTrue => exact failsIn_ok m m ()
  case isFalse => exact failsIn_error m _

private theorem Opaque.failsIn_parse (place : Place) (o : Opaque) (buf : Array UInt8)
    (offset length : Nat) : FailsIn o (Record.parse place o buf offset length) := by
  cases place with
  | localHeader => exact failsIn_inSpan_self fun _ => failsIn_ok o _ ()
  | central => exact failsIn_inSpan_self fun _ => failsIn_ok o _ ()

private theorem Leftover.failsIn_parse (place : Place) (l : Leftover) (buf : Array UInt8)
    (offset length : Nat) : FailsIn l (Record.parse place l buf offset length) := by
  cases place with
  | localHeader => exact failsIn_inSpan_self fun _ => failsIn_ok l _ ()
  | central => exact failsIn_inSpan_self fun _ => failsIn_ok l _ ()

namespace Field

/-! ### Records of any kind -/

/-- The record without the values that it has as a Zip64 record. -/
def emptied : Field κ → Field κ
  | zip64 _ => zip64 {}
  | boxed f => boxed f.emptied
  | f => f

private theorem emptied_eq_self_iff (f : Field κ) :
    f.emptied = f ↔ ∀ z, f.unboxed = .zip64 z → z = {} := by
  induction f with
  | zip64 z => simp [emptied, unboxed, eq_comm]
  | boxed f ih => simpa [emptied, unboxed] using ih
  | _ => simp [emptied, unboxed]

private theorem failsIn_of_emptied_eq {f : Field κ} {o : Outcome (Field κ) Unit}
    (hf : f.emptied = f) (h : FailsIn f o) (c : Prop) [Decidable c] :
    FailsIn (if c then f.emptied else f) o := by
  rwa [hf, ite_self]

variable [Record κ]

/-- What a record is after a payload was refused. -/
theorem failsIn_parse {f : Field κ} (hf : f.IsBuiltin) (place : Place) (buf : Array UInt8)
    (offset length : Nat) :
    FailsIn (if place = .localHeader ∧ offset + length ≤ buf.size then f.emptied else f)
      (f.parse place buf offset length) := by
  induction f with
  | custom r => exact hf.elim
  | boxed f ih =>
    have hbox := (ih hf).mapState boxed
    rwa [apply_ite boxed] at hbox
  | zip64 z =>
    have hzip64 := (z.failsIn_parse place buf offset length).mapState (zip64 : _ → Field κ)
    rwa [apply_ite zip64] at hzip64
  | timestamp t =>
    exact failsIn_of_emptied_eq rfl ((t.failsIn_parse place buf offset length).mapState _) _
  | ownership o =>
    exact failsIn_of_emptied_eq rfl ((o.failsIn_parse place buf offset length).mapState _) _
  | unicodePath u =>
    exact failsIn_of_emptied_eq rfl ((u.failsIn_parse _ buf offset length).mapState _) _
  | unicodeComment u =>
    exact failsIn_of_emptied_eq rfl ((u.failsIn_parse _ buf offset length).mapState _) _
  | alignment a =>
    exact failsIn_of_emptied_eq rfl ((a.failsIn_parse place buf offset length).mapState _) _
  | jarMarker m =>
    refine failsIn_of_emptied_eq rfl ?_ _
    cases place with
    | localHeader => exact (m.failsIn_parse length).mapState jarMarker
    | central => exact (m.failsIn_parse length).mapState jarMarker
  | certificate o =>
    exact failsIn_of_emptied_eq rfl ((o.failsIn_parse place buf offset length).mapState _) _
  | unrecognized o =>
    exact failsIn_of_emptied_eq rfl ((o.failsIn_parse place buf offset length).mapState _) _
  | leftover l =>
    exact failsIn_of_emptied_eq rfl ((l.failsIn_parse place buf offset length).mapState _) _

/-- A central payload that is refused leaves the record as it was. -/
theorem failsIn_parse_central {f : Field κ} (hf : f.IsBuiltin) (buf : Array UInt8)
    (offset length : Nat) : FailsIn f (f.parse .central buf offset length) := by
  have h := failsIn_parse hf .central buf offset length
  rwa [if_neg (by simp)] at h

/-- A record of this library that refuses a payload is as it was, in whichever header and buffer the
payload stands, unless it is a Zip64 record with anything in it, and the payload is a local one that
lies in the buffer. Then it is left without values. A central payload that cannot be read again
leaves a Zip64 record as it was. -/
theorem parse_error_leaves :
    (∀ f : Field κ, f.IsBuiltin → ∀ place buf offset length e g,
      f.parse place buf offset length = (.error e, g) →
        g = (if place = .localHeader ∧ offset + length ≤ buf.size then f.emptied else f) ∧
        (g = f ↔ ∀ z, f.unboxed = .zip64 z → place = .localHeader →
          offset + length ≤ buf.size → z = {})) ∧
    ∀ (z : Zip64) (hasSize hasCompressedSize hasOffset hasDisk : Bool) (e : Fault) (z' : Zip64),
      z.reparseCentral hasSize hasCompressedSize hasOffset hasDisk = (.error e, z') → z' = z := by
  refine ⟨fun f hf place buf offset length e g h => ?_, fun z a b c d e z' h => ?_⟩
  · have hleft := failsIn_parse hf place buf offset length e g h
    refine ⟨hleft, ?_⟩
    rw [hleft]
    split
    case isTrue hlocal =>
      rw [emptied_eq_self_iff]
      exact forall₂_congr fun z _ => ⟨fun hz _ _ => hz, fun hz => hz hlocal.1 hlocal.2⟩
    case isFalse hnot =>
      exact iff_of_true rfl fun z _ hplace hbuf => absurd ⟨hplace, hbuf⟩ hnot
  · exact z.failsIn_reparse ⟨a, b, c, d⟩ e z' h

/-- A timestamp stays as it was, and so does a Zip64 record but for a local payload. -/
theorem parse_error_leaves_samples :
    let time : Field Empty := timestamp { modify? := some 1 }
    let sizes : Field Empty := zip64 (.ofSizes 5 3)
    (time.parse .localHeader #[3, 0, 0, 0, 0] 0 5).2 = time ∧
      (sizes.parse .central #[0, 0, 0, 0, 0] 0 5).2 = sizes ∧
      (sizes.parse .localHeader #[0, 0, 0, 0, 0] 0 5).2 = zip64 {} ∧
      (Zip64.reparseCentral { size? := some 5, rawCentral? := some (bytes64 5) }
        true true false false).2 = { size? := some 5, rawCentral? := some (bytes64 5) } := by
  intro time sizes
  obtain ⟨hparse, hreparse⟩ := parse_error_leaves (κ := Empty)
  have htime : (time.parse .localHeader #[3, 0, 0, 0, 0] 0 5).1 =
      .error (.malformedRecord 0x5455 "flagged time runs past the payload") := by decide +kernel
  have hcentral : (sizes.parse .central #[0, 0, 0, 0, 0] 0 5).1 =
      .error (.malformedRecord 0x0001
        "central payload of 5 bytes is not 8k or 8k+4 with k <= 3") := by decide +kernel
  have hlocal : (sizes.parse .localHeader #[0, 0, 0, 0, 0] 0 5).1 =
      .error (.malformedRecord 0x0001
        "local payload must be 0, 16, 24 or 28 bytes, found 5") := by decide +kernel
  have hwanted : (Zip64.reparseCentral { size? := some 5, rawCentral? := some (bytes64 5) }
        true true false false).1 =
      .error (.malformedRecord 0x0001
        "central payload is 8 bytes, header fields call for 16") := by decide +kernel
  exact ⟨(hparse time trivial _ _ _ _ _ _ (Prod.ext htime rfl)).1,
    (hparse sizes trivial _ _ _ _ _ _ (Prod.ext hcentral rfl)).1,
    (hparse sizes trivial _ _ _ _ _ _ (Prod.ext hlocal rfl)).1,
    hreparse _ _ _ _ _ _ _ (Prod.ext hwanted rfl)⟩

/-- Both sizes of a Zip64 record are gone after a local payload of eight bytes was refused. -/
theorem parse_sampleSizes :
    let f : Field Empty := .zip64 (.ofSizes 5 3)
    f.Reachable ∧
      f.parse .localHeader #[0, 0, 0, 0, 0, 0, 0, 0] 0 8 =
        (.error (.malformedRecord 0x0001 "local payload must be 0, 16, 24 or 28 bytes, found 8"),
          .zip64 {}) ∧
      f.data .localHeader = bytes64 5 ++ bytes64 3 ∧
      (Field.zip64 {} : Field Empty).data .localHeader = [] := by
  refine ⟨.made (.sizes 5 3), ?_, ?_, rfl⟩
  · decide +kernel
  · decide +kernel

end Field

end Extra

end ZipArchive
