import ZipArchive.Proofs.Extra.OrderedMap

/-!
# The kind of a record

What a record of this library takes in from a central header depends on its kind, and on nothing
that was read into it before. Its kind is told by the record of that kind into which nothing was
read, `Field.blank`: reading keeps it, `Field.blank_parse`, and two records for which it is the same
answer to a payload in the same way, `Field.result_parse_blank`. In particular a payload that was
taken in can be taken in again by any record of the kind, in the form in which it is written:
`Field.read_data_central`.
-/

namespace ZipArchive.Extra

variable {κ : Type}

/-! ### Results that do not depend on the record -/

section Results

variable {buf : Array UInt8} {offset length : Nat}

private theorem inSpan_result_congr {ρ : Type} {r s : ρ} {read read' : Bytes → Outcome ρ Unit}
    (h : ∀ payload, (read payload).1 = (read' payload).1) :
    (inSpan r buf offset length read).1 = (inSpan s buf offset length read').1 := by
  rw [inSpan, inSpan]
  split
  case h_1 payload _ => exact h payload
  case h_2 => rfl

private theorem ofExcept_result_eq {ρ : Type} (r s : ρ) (x : Except Fault ρ) :
    (Outcome.ofExcept r x).1 = (Outcome.ofExcept s x).1 := by
  cases x with
  | ok t => rfl
  | error e => rfl

private theorem Zip64.result_parseCentral (z w : Zip64) :
    (Record.parseCentral z buf offset length).1 = (Record.parseCentral w buf offset length).1 :=
  inSpan_result_congr fun payload => ofExcept_result_eq z w (ofCentral payload)

private theorem Timestamp.result_parseCentral (t u : Timestamp) :
    (Record.parseCentral t buf offset length).1 = (Record.parseCentral u buf offset length).1 := by
  have hparse (t : Timestamp) : Record.parseCentral t buf offset length = _ := t.parse_central ..
  rw [hparse t, hparse u]
  refine inSpan_result_congr fun payload => ?_
  rcases payload with _ | ⟨flags, bs⟩
  · rfl
  · rw [withCentral, withCentral]
    cases takeTime flags modifyBit bs with
    | error e => rfl
    | ok taken =>
      obtain ⟨modify?, rest⟩ := taken
      dsimp only [bind, Except.bind]
      cases atEnd rest with
      | error e => rfl
      | ok _ => rfl

private theorem Ownership.result_parseCentral (o p : Ownership) :
    (Record.parseCentral o buf offset length).1 = (Record.parseCentral p buf offset length).1 :=
  inSpan_result_congr fun _ => rfl

private theorem UnicodeText.result_parse (id : UInt16) (u v : UnicodeText) :
    (u.parse id buf offset length).1 = (v.parse id buf offset length).1 :=
  inSpan_result_congr fun payload => ofExcept_result_eq u v (ofPayload id payload)

private theorem Alignment.result_parseCentral (a b : Alignment) :
    (Record.parseCentral a buf offset length).1 = (Record.parseCentral b buf offset length).1 := by
  have hparse (a : Alignment) : Record.parseCentral a buf offset length = _ := a.parse_central ..
  rw [hparse a, hparse b, atLeastWord, atLeastWord]
  split
  case isTrue => rfl
  case isFalse => exact inSpan_result_congr fun _ => rfl

private theorem Opaque.result_parseCentral (o p : Opaque) :
    (Record.parseCentral o buf offset length).1 = (Record.parseCentral p buf offset length).1 :=
  inSpan_result_congr fun _ => rfl

private theorem Leftover.result_parseCentral (l m : Leftover) :
    (Record.parseCentral l buf offset length).1 = (Record.parseCentral m buf offset length).1 :=
  inSpan_result_congr fun _ => rfl

end Results

/-! ### Kinds -/

namespace Field

/-- The record of the kind into which nothing was read. Records that are kept as bytes are of one
kind if they have the same id. -/
def blank : Field κ → Field κ
  | zip64 _ => zip64 {}
  | timestamp _ => timestamp {}
  | ownership _ => ownership default
  | unicodePath _ => unicodePath {}
  | unicodeComment _ => unicodeComment {}
  | alignment _ => alignment default
  | jarMarker _ => jarMarker {}
  | certificate o => unrecognized { id := o.id }
  | unrecognized o => unrecognized { id := o.id }
  | leftover _ => leftover {}
  | custom r => custom r
  | boxed f => f.blank

theorem isBuiltin_blank_iff (f : Field κ) : f.blank.IsBuiltin ↔ f.IsBuiltin := by
  induction f with
  | boxed f ih => exact ih
  | _ => exact Iff.rfl

variable [Record κ]

theorem id_blank (f : Field κ) : f.blank.id = f.id := by
  induction f with
  | boxed f ih => exact ih
  | _ => rfl

/-- Reading a central payload does not change the kind, also if the payload is refused. -/
theorem blank_parse {f : Field κ} (hf : f.IsBuiltin) (buf : Array UInt8) (offset length : Nat) :
    (f.parse .central buf offset length).2.blank = f.blank := by
  induction f with
  | custom r => exact hf.elim
  | boxed f ih => exact ih hf
  | certificate o =>
    have hid := FixedId.id_parseCentral o buf offset length
    exact congrArg (fun id => unrecognized { id := id }) hid
  | unrecognized o =>
    have hid := FixedId.id_parseCentral o buf offset length
    exact congrArg (fun id => unrecognized { id := id }) hid
  | _ => rfl

/-- Whether a central payload is taken in, and why not, depends on the kind alone. -/
theorem result_parse_blank {f : Field κ} (hf : f.IsBuiltin) (buf : Array UInt8)
    (offset length : Nat) :
    (f.blank.parse .central buf offset length).1 = (f.parse .central buf offset length).1 := by
  induction f with
  | custom r => exact hf.elim
  | boxed f ih => exact ih hf
  | zip64 z => exact Zip64.result_parseCentral {} z
  | timestamp t => exact Timestamp.result_parseCentral {} t
  | ownership o => exact Ownership.result_parseCentral default o
  | unicodePath u => exact UnicodeText.result_parse UnicodeText.pathId {} u
  | unicodeComment u => exact UnicodeText.result_parse UnicodeText.commentId {} u
  | alignment a => exact Alignment.result_parseCentral default a
  | jarMarker m => rfl
  | certificate o => exact Opaque.result_parseCentral { id := o.id } o
  | unrecognized o => exact Opaque.result_parseCentral { id := o.id } o
  | leftover l => exact Leftover.result_parseCentral {} l

/-- Records of one kind answer to a central payload in the same way. -/
theorem result_read_of_blank_eq {f g : Field κ} (hf : f.IsBuiltin) (hg : g.IsBuiltin)
    (h : f.blank = g.blank) (payload : Bytes) :
    (f.read .central payload).1 = (g.read .central payload).1 := by
  rw [read, read, ← result_parse_blank hf, h, result_parse_blank hg]

/-- What was taken in is taken in again as it is written. -/
theorem read_data_central {f g : Field κ} {payload : Bytes} (hf : f.IsBuiltin)
    (h : f.read .central payload = (.ok (), g)) :
    (f.read .central (g.data .central)).1 = .ok () := by
  induction f generalizing g with
  | custom r => exact hf.elim
  | boxed f ih =>
    obtain ⟨g, hg, rfl⟩ := mapState_eq_ok_iff.1 h
    exact (ih hf hg :)
  | alignment a =>
    cases readsTo_of_read (by trivial) h with
    | alignmentCentral _ hlength =>
      -- of the payload only the word is written, which is enough
      have hword : 2 ≤ (a.withWord payload).centralData.length :=
        Nat.le_of_eq (a.withWord payload).length_centralData.symm
      exact congrArg Prod.fst (read_of_readsTo (.alignmentCentral a hword))
  | _ =>
    rw [(readsTo_of_read (by trivial) h).data_eq]
    exact congrArg Prod.fst h

end Field

end ZipArchive.Extra
