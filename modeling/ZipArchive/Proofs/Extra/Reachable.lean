import ZipArchive.Extra.Registry
import ZipArchive.Proofs.Extra.Cursor
import ZipArchive.Proofs.Extra.Ownership
import ZipArchive.Proofs.Extra.Timestamp

/-!
# Records that operations lead to

A record of this library is made by a constructor, changed by setters and filled from payloads:
`Field.Reachable`. All that these operations keep true, and that reading a payload again depends on,
is `Field.WellFormed`: the flags of a timestamp, the lengths of the ids of an owner and a group, and
the ids of records that are kept as bytes. So every record that operations lead to is well-formed,
`Field.Reachable.wellFormed`.
-/

namespace ZipArchive.Extra

variable {κ : Type}

/-- Whether a record with the id is kept as bytes: the id is unknown, or known as that of a
certificate. -/
def Registry.IsBlob (reg : Registry κ) (id : UInt16) : Prop :=
  reg.template? id = none ∨ reg.template? id = some (.certificate { id := id })

namespace Field

/-! ### Operations -/

/-- The records that constructors give. -/
inductive Made : Field κ → Prop
  | zip64 : Made (.zip64 {})
  | sizes (size compressedSize : UInt64) : Made (.zip64 (.ofSizes size compressedSize))
  | timestamp : Made (.timestamp {})
  | ownership (user group : UInt64) : Made (.ownership (.ofIds user group))
  | unicodePath (text : String) (raw : Bytes) : Made (.unicodePath (.ofText text raw))
  | emptyPath : Made (.unicodePath {})
  | unicodeComment (text : String) (raw : Bytes) : Made (.unicodeComment (.ofText text raw))
  | emptyComment : Made (.unicodeComment {})
  | alignment {number : UInt16} {allow : Bool} {padding : Nat} {a : Alignment}
      (h : Alignment.ofParts number allow padding = .ok a) : Made (.alignment a)
  | noAlignment : Made (.alignment default)
  | jarMarker : Made (.jarMarker {})
  | certificate {id : UInt16} (h : (Registry.builtin : Registry κ).IsBlob id) :
      Made (.certificate { id := id })
  | unrecognized {id : UInt16} (h : (Registry.builtin : Registry κ).IsBlob id) :
      Made (.unrecognized { id := id })

/-- One record becomes another by a setter. -/
inductive Changed : Field κ → Field κ → Prop
  | size (z : Zip64) (size? : Option UInt64) : Changed (.zip64 z) (.zip64 { z with size? })
  | compressedSize (z : Zip64) (compressedSize? : Option UInt64) :
      Changed (.zip64 z) (.zip64 { z with compressedSize? })
  | offset (z : Zip64) (offset? : Option UInt64) : Changed (.zip64 z) (.zip64 { z with offset? })
  | disk (z : Zip64) (disk? : Option UInt32) : Changed (.zip64 z) (.zip64 { z with disk? })
  | modify (t : Timestamp) (time? : Option Int32) :
      Changed (.timestamp t) (.timestamp (t.setModify time?))
  | access (t : Timestamp) (time? : Option Int32) :
      Changed (.timestamp t) (.timestamp (t.setAccess time?))
  | create (t : Timestamp) (time? : Option Int32) :
      Changed (.timestamp t) (.timestamp (t.setCreate time?))
  | user (o : Ownership) (id : UInt64) : Changed (.ownership o) (.ownership (o.setUser id))
  | group (o : Ownership) (id : UInt64) : Changed (.ownership o) (.ownership (o.setGroup id))
  | certificateLocal (o : Opaque) (payload : Bytes) :
      Changed (.certificate o) (.certificate (o.setLocal payload))
  | certificateCentral (o : Opaque) (payload : Bytes) :
      Changed (.certificate o) (.certificate (o.setCentral payload))
  | unrecognizedLocal (o : Opaque) (payload : Bytes) :
      Changed (.unrecognized o) (.unrecognized (o.setLocal payload))
  | unrecognizedCentral (o : Opaque) (payload : Bytes) :
      Changed (.unrecognized o) (.unrecognized (o.setCentral payload))

variable [Record κ]

/-- The records that operations lead to: those that constructors give, and what becomes of them by
setters, by reading payloads of either header, and by reading a central Zip64 payload again. -/
inductive Reachable : Field κ → Prop
  | made {f : Field κ} (h : Made f) : Reachable f
  | changed {f g : Field κ} (h : Reachable f) (hchange : Changed f g) : Reachable g
  | parsed {f g : Field κ} {place : Place} {buf : Array UInt8} {offset length : Nat}
      (h : Reachable f) (hparse : f.parse place buf offset length = (.ok (), g)) : Reachable g
  | reparsed {z z' : Zip64} {hasSize hasCompressedSize hasOffset hasDisk : Bool}
      (h : Reachable (.zip64 z))
      (hparse : z.reparseCentral hasSize hasCompressedSize hasOffset hasDisk = (.ok (), z')) :
      Reachable (.zip64 z')

/-! ### What operations keep -/

/-- What operations keep true of a record. -/
def WellFormed : Field κ → Prop
  | timestamp t => t.WellFormed
  | ownership o => o.WellFormed
  | certificate o => (Registry.builtin : Registry κ).IsBlob o.id
  | unrecognized o => (Registry.builtin : Registry κ).IsBlob o.id
  | leftover _ => False
  | custom _ => False
  | boxed _ => False
  | _ => True

omit [Record κ] in
private theorem Made.wellFormed {f : Field κ} (h : Made f) : f.WellFormed := by
  cases h with
  | timestamp => exact fun hflag => absurd rfl hflag
  | ownership user group => exact Ownership.wellFormed_ofIds user group
  | certificate h => exact h
  | unrecognized h => exact h
  | _ => trivial

omit [Record κ] in
private theorem Changed.wellFormed {f g : Field κ} (hchange : Changed f g) (h : f.WellFormed) :
    g.WellFormed := by
  cases hchange with
  | modify t time? => exact Timestamp.wellFormed_setModify t time?
  | access t time? => exact Timestamp.WellFormed.setAccess h time?
  | create t time? => exact Timestamp.WellFormed.setCreate h time?
  | user o id => exact Ownership.WellFormed.setUser h id
  | group o id => exact Ownership.WellFormed.setGroup h id
  | certificateLocal o payload => exact h
  | certificateCentral o payload => exact h
  | unrecognizedLocal o payload => exact h
  | unrecognizedCentral o payload => exact h
  | _ => trivial

end Field

/-! ### Reading payloads -/

theorem mapState_eq_ok_iff {σ τ : Type} {f : σ → τ} {o : Outcome σ Unit} {t : τ} :
    o.mapState f = (.ok (), t) ↔ ∃ s, o = (.ok (), s) ∧ f s = t := by
  obtain ⟨result, s⟩ := o
  simp [Outcome.mapState]

theorem ofExcept_eq_ok_iff {σ : Type} {s t : σ} {x : Except Fault σ} :
    Outcome.ofExcept s x = (.ok (), t) ↔ x = .ok t := by
  cases x with
  | ok u => simp
  | error e => simp

/-- A payload that was read lies in its buffer. -/
theorem exists_of_inSpan_eq_ok {ρ : Type} {r s : ρ} {buf : Array UInt8} {offset length : Nat}
    {read : Bytes → Outcome ρ Unit} (h : inSpan r buf offset length read = (.ok (), s)) :
    ∃ payload, Buffer.span buf offset length = .ok payload ∧ read payload = (.ok (), s) := by
  rw [inSpan] at h
  split at h
  case h_1 payload hspan => exact ⟨payload, hspan, h⟩
  case h_2 => cases h

/-- Reading a payload does not change the id of a record kept as bytes. -/
theorem Opaque.id_of_parse {o p : Opaque} {place : Place} {buf : Array UInt8} {offset length : Nat}
    (h : Record.parse place o buf offset length = (.ok (), p)) : p.id = o.id := by
  cases place with
  | localHeader =>
    obtain ⟨payload, -, hread⟩ := exists_of_inSpan_eq_ok h
    cases hread
    rfl
  | central =>
    obtain ⟨payload, -, hread⟩ := exists_of_inSpan_eq_ok h
    obtain rfl : o.withCentral payload = p := congrArg Prod.snd hread
    rw [withCentral]
    split
    · rfl
    · rfl

namespace Field

variable [Record κ]

private theorem WellFormed.of_parse {f g : Field κ} {place : Place} {buf : Array UInt8}
    {offset length : Nat} (h : f.WellFormed)
    (hparse : f.parse place buf offset length = (.ok (), g)) : g.WellFormed := by
  cases f with
  | leftover l => exact h.elim
  | custom r => exact h.elim
  | boxed f => exact h.elim
  | timestamp t =>
    obtain ⟨u, hu, rfl⟩ := mapState_eq_ok_iff.1 hparse
    cases place with
    | localHeader =>
      rw [t.parse_localHeader] at hu
      obtain ⟨payload, -, hread⟩ := exists_of_inSpan_eq_ok hu
      exact Timestamp.wellFormed_of_ofLocal (ofExcept_eq_ok_iff.1 hread)
    | central =>
      rw [t.parse_central] at hu
      obtain ⟨payload, -, hread⟩ := exists_of_inSpan_eq_ok hu
      exact Timestamp.wellFormed_of_withCentral (ofExcept_eq_ok_iff.1 hread)
  | ownership o =>
    obtain ⟨p, hp, rfl⟩ := mapState_eq_ok_iff.1 hparse
    cases place with
    | localHeader =>
      rw [o.parse_localHeader] at hp
      obtain ⟨payload, -, hread⟩ := exists_of_inSpan_eq_ok hp
      exact Ownership.wellFormed_of_withLocal (ofExcept_eq_ok_iff.1 hread)
    | central =>
      obtain ⟨payload, -, hread⟩ := exists_of_inSpan_eq_ok hp
      cases hread
      exact h
  | certificate o =>
    obtain ⟨p, hp, rfl⟩ := mapState_eq_ok_iff.1 hparse
    have hid : p.id = o.id := Opaque.id_of_parse hp
    simp only [WellFormed, hid]
    exact h
  | unrecognized o =>
    obtain ⟨p, hp, rfl⟩ := mapState_eq_ok_iff.1 hparse
    have hid : p.id = o.id := Opaque.id_of_parse hp
    simp only [WellFormed, hid]
    exact h
  | _ =>
    obtain ⟨_, -, rfl⟩ := mapState_eq_ok_iff.1 hparse
    trivial

/-- Every record that operations lead to is well-formed. -/
theorem Reachable.wellFormed {f : Field κ} (h : f.Reachable) : f.WellFormed := by
  induction h with
  | made h => exact h.wellFormed
  | changed _ hchange ih => exact hchange.wellFormed ih
  | parsed _ hparse ih => exact ih.of_parse hparse
  | reparsed _ _ _ => trivial

end Field

end ZipArchive.Extra
