import ZipArchive.Proofs.Extra.Rewriting

/-!
# Bytes behind the records of a stream

A stream is read as far as its records go, and the two ways to go on with the bytes behind them
differ in nothing else. A record that is refused is refused as a malformed record of its own id,
`Field.failsAs_read`, so that the bytes behind the records are never taken for one of them. So there
are two kinds of streams, `Registry.Parsing`: those for which it does not matter what is done about
bytes behind the records, because there are none or because a record before them is refused; and
those that are cut off, where these bytes are an error in the one way and one more field in the
other. `Registry.parse_keep_of_refuse` says how the two ways agree.
-/

namespace ZipArchive.Extra

open RawRecord (stream)

/-! ### The faults of records -/

/-- If the step fails, then because of a malformed record with the id. -/
def FailsAs {α : Type} (id : UInt16) (x : Except Fault α) : Prop :=
  ∀ e, x = .error e → ∃ reason, e = .malformedRecord id reason

section FailsAs

variable {α β : Type} {id : UInt16}

private theorem failsAs_ok (id : UInt16) (a : α) : FailsAs id (.ok a) := by
  rintro _ ⟨⟩

private theorem failsAs_malformedRecord (id : UInt16) (reason : String) :
    FailsAs id (.error (.malformedRecord id reason) : Except Fault α) := by
  rintro _ ⟨⟩
  exact ⟨reason, rfl⟩

private theorem FailsAs.bind {x : Except Fault α} {f : α → Except Fault β} (hx : FailsAs id x)
    (hf : ∀ a, FailsAs id (f a)) : FailsAs id (x >>= f) := by
  intro e h
  rcases bind_eq_error_iff.1 h with h | ⟨a, -, h⟩
  · exact hx e h
  · exact hf a e h

private theorem FailsAs.ite {p : Prop} [Decidable p] {x y : Except Fault α} (hx : FailsAs id x)
    (hy : FailsAs id y) : FailsAs id (if p then x else y) := by
  split
  · exact hx
  · exact hy

private theorem FailsAs.ofExcept {ρ : Type} {x : Except Fault ρ} (hx : FailsAs id x) (r : ρ) :
    FailsAs id (Outcome.ofExcept r x).1 := by
  intro e h
  cases x with
  | ok a => cases h
  | error e' => exact hx e (congrArg Except.error (Except.error.inj h))

end FailsAs

private theorem Zip64.failsAs_ofLocal (payload : Bytes) : FailsAs recordId (ofLocal payload) := by
  rw [ofLocal]
  split
  case h_5 => exact failsAs_malformedRecord _ _
  all_goals exact failsAs_ok _ _

private theorem Zip64.failsAs_ofCentral (payload : Bytes) : FailsAs recordId (ofCentral payload) :=
  (failsAs_ok _ _).ite (failsAs_malformedRecord _ _)

private theorem Timestamp.failsAs_takeTime (flags bit : UInt8) (bs : Bytes) :
    FailsAs recordId (takeTime flags bit bs) :=
  (failsAs_ok _ _).ite ((failsAs_malformedRecord _ _).ite (failsAs_ok _ _))

private theorem Timestamp.failsAs_atEnd (bs : Bytes) : FailsAs recordId (atEnd bs) :=
  (failsAs_ok _ _).ite (failsAs_malformedRecord _ _)

private theorem Timestamp.failsAs_ofLocal (payload : Bytes) :
    FailsAs recordId (ofLocal payload) := by
  rcases payload with _ | ⟨flags, bs⟩
  · exact failsAs_malformedRecord _ _
  · exact (failsAs_takeTime _ _ _).bind fun _ => (failsAs_takeTime _ _ _).bind fun _ =>
      (failsAs_takeTime _ _ _).bind fun _ => (failsAs_atEnd _).bind fun _ => failsAs_ok _ _

private theorem Timestamp.failsAs_withCentral (t : Timestamp) (payload : Bytes) :
    FailsAs recordId (t.withCentral payload) := by
  rcases payload with _ | ⟨flags, bs⟩
  · exact failsAs_malformedRecord _ _
  · exact (failsAs_takeTime _ _ _).bind fun _ => (failsAs_atEnd _).bind fun _ => failsAs_ok _ _

private theorem Ownership.failsAs_takeId (bs : Bytes) : FailsAs recordId (takeId bs) := by
  rcases bs with _ | ⟨size, bs⟩
  · exact failsAs_malformedRecord _ _
  · exact (failsAs_malformedRecord _ _).ite (failsAs_ok _ _)

private theorem Ownership.failsAs_withLocal (o : Ownership) (payload : Bytes) :
    FailsAs recordId (o.withLocal payload) := by
  rcases payload with _ | ⟨version, bs⟩
  · exact failsAs_malformedRecord _ _
  · exact (failsAs_takeId _).bind fun _ => (failsAs_takeId _).bind fun _ =>
      (failsAs_ok _ _).ite (failsAs_malformedRecord _ _)

private theorem UnicodeText.failsAs_ofPayload (id : UInt16) (payload : Bytes) :
    FailsAs id (ofPayload id payload) := by
  rw [ofPayload.eq_def]
  split
  · exact (failsAs_ok _ _).ite (failsAs_malformedRecord _ _)
  · exact failsAs_malformedRecord _ _

namespace Field

variable {κ : Type} [Record κ]

omit [Record κ] in
private theorem failsAs_inSpan_self {ρ : Type} {id : UInt16} (r : ρ) (make : ρ → Field κ)
    {payload : Bytes} {read : Bytes → Outcome ρ Unit} (h : FailsAs id (read payload).1) :
    FailsAs id ((inSpan r payload.toArray 0 payload.length read).mapState make).1 := by
  rw [inSpan_self]
  exact h

omit [Record κ] in
/-- A record that is read in another way fails as it does when its payload is taken out. -/
theorem failsAs_of_parse_eq {ρ : Type} {id : UInt16} {r : ρ} (make : ρ → Field κ) {payload : Bytes}
    {read : Bytes → Outcome ρ Unit} {parsed : Outcome ρ Unit}
    (hparse : parsed = inSpan r payload.toArray 0 payload.length read)
    (h : FailsAs id (read payload).1) : FailsAs id (parsed.mapState make).1 :=
  hparse ▸ failsAs_inSpan_self r make h

omit [Record κ] in
private theorem failsAs_atLeastWord (a : Alignment) (payload : Bytes) (read : Bytes → Alignment) :
    FailsAs Alignment.recordId ((a.atLeastWord payload.toArray 0 payload.length read).mapState
      (.alignment : _ → Field κ)).1 := by
  rw [Alignment.atLeastWord]
  split
  · exact failsAs_malformedRecord _ _
  · exact failsAs_inSpan_self a _ (failsAs_ok _ _)

/-- A record of this library that is refused is refused as a malformed record of its id. -/
theorem failsAs_read {f : Field κ} (hf : f.IsBuiltin) (place : Place) (payload : Bytes) :
    FailsAs f.id (f.read place payload).1 := by
  induction f with
  | custom r => exact hf.elim
  | boxed f ih => exact ih hf
  | jarMarker m =>
    have hparse : (jarMarker m : Field κ).read place payload =
        (m.parse payload.length).mapState jarMarker := by
      cases place <;> rfl
    rw [hparse, JarMarker.parse]
    split
    · exact failsAs_ok _ _
    · exact failsAs_malformedRecord _ _
  | unicodePath u =>
    exact failsAs_inSpan_self u _ ((UnicodeText.failsAs_ofPayload _ payload).ofExcept u)
  | unicodeComment u =>
    exact failsAs_inSpan_self u _ ((UnicodeText.failsAs_ofPayload _ payload).ofExcept u)
  | zip64 z =>
    cases place with
    | localHeader => exact failsAs_inSpan_self z _ ((Zip64.failsAs_ofLocal payload).ofExcept _)
    | central => exact failsAs_inSpan_self z _ ((Zip64.failsAs_ofCentral payload).ofExcept _)
  | timestamp t =>
    cases place with
    | localHeader =>
      exact failsAs_of_parse_eq _ (t.parse_localHeader ..)
        ((Timestamp.failsAs_ofLocal payload).ofExcept _)
    | central =>
      exact failsAs_of_parse_eq _ (t.parse_central ..) ((t.failsAs_withCentral payload).ofExcept _)
  | ownership o =>
    cases place with
    | localHeader =>
      exact failsAs_of_parse_eq _ (o.parse_localHeader ..)
        ((o.failsAs_withLocal payload).ofExcept _)
    | central => exact failsAs_inSpan_self o _ (failsAs_ok _ _)
  | alignment a =>
    rw [read, parse]
    cases place with
    | localHeader =>
      rw [a.parse_localHeader]
      exact failsAs_atLeastWord a payload _
    | central =>
      rw [a.parse_central]
      exact failsAs_atLeastWord a payload _
  | certificate o => cases place <;> exact failsAs_inSpan_self o _ (failsAs_ok _ _)
  | unrecognized o => cases place <;> exact failsAs_inSpan_self o _ (failsAs_ok _ _)
  | leftover l => cases place <;> exact failsAs_inSpan_self l _ (failsAs_ok _ _)

end Field

namespace Registry

variable {κ : Type}

/-! ### Registries of records of this library -/

/-- All records to start from are records of this library. -/
def IsBuiltin (reg : Registry κ) : Prop :=
  ∀ id f, reg.template? id = some f → f.IsBuiltin

theorem IsBuiltin.create {reg : Registry κ} (hreg : reg.IsBuiltin) (id : UInt16) :
    (reg.create id).IsBuiltin := by
  rw [Registry.create]
  cases htemplate : reg.template? id with
  | none => trivial
  | some f => exact hreg id f htemplate

private theorem IsBuiltin.register {reg : Registry κ} (hreg : reg.IsBuiltin) (id : UInt16)
    {f : Field κ} (hf : f.IsBuiltin) : (reg.register id f).IsBuiltin := by
  intro i g htemplate
  rw [Registry.register] at htemplate
  dsimp only at htemplate
  split at htemplate
  · obtain rfl := Option.some.inj htemplate
    exact hf
  · exact hreg i g htemplate

variable [Record κ] {reg : Registry κ}

theorem isBuiltin_builtin : (builtin : Registry κ).IsBuiltin := by
  intro id f htemplate
  have hcreate : ((builtin : Registry κ).create id).IsBuiltin :=
    (receives_builtin id).isOwn.isBuiltin
  rwa [Registry.create, htemplate, Option.getD_some] at hcreate

private theorem IsBuiltin.failsAs_read (hreg : reg.IsBuiltin) (place : Place) (r : RawRecord) :
    FailsAs (reg.create r.id).id (r.read reg place) := by
  intro e h
  rw [RawRecord.read] at h
  split at h
  case h_1 => cases h
  case h_2 e' g hread =>
    obtain rfl := Except.error.inj h
    exact Field.failsAs_read (hreg.create r.id) place r.payload _ (congrArg Prod.fst hread)

/-! ### Streams -/

/-- How a stream is read. -/
inductive Parsing (reg : Registry κ) (place : Place) (d : Bytes) : Prop
  /-- What is done about bytes behind its records does not matter: there are none, or one of the
  records is refused. -/
  | alike {result : Except Fault (List (Field κ))}
      (hresult : ∀ offset remaining, result ≠ .error (.unparseableTrailingBytes offset remaining))
      (h : ∀ remainder, reg.parse place remainder d = result)
  /-- All its records are read, and there are bytes behind them. -/
  | cut {records : List RawRecord} {tail : Bytes} {fields : List (Field κ)}
      (hd : d = stream records ++ tail) (htail : ¬StartsWithRecord tail) (hne : tail ≠ [])
      (hrecords : reg.parse place .refuse (stream records) = .ok fields)
      (hrefuse : reg.parse place .refuse d =
        .error (.unparseableTrailingBytes (stream records).length tail.length))
      (hkeep : reg.parse place .keep d = .ok (fields ++ [.leftover (.ofBytes place tail)]))

private theorem IsBuiltin.parsing (hreg : reg.IsBuiltin) (place : Place) (d : Bytes) :
    reg.Parsing place d := by
  obtain ⟨records, tail, rfl, htail⟩ := RawRecord.exists_records d
  cases hfields : records.mapM (RawRecord.read reg place) with
  | error e =>
    -- the first record that is refused decides, before the bytes behind the records are looked at
    obtain ⟨-, r, -, -, -, hr⟩ := mapM_eq_error_iff.1 hfields
    obtain ⟨reason, rfl⟩ := hreg.failsAs_read place r e hr
    have hrefused : ∀ remainder, reg.parse place remainder (stream records ++ tail) =
        .error (.malformedRecord (reg.create r.id).id reason) := by
      intro remainder
      rw [parse_stream hreg.create remainder records htail, hfields]
      rfl
    refine .alike ?_ hrefused
    rintro _ _ ⟨⟩
  | ok fields =>
    have hrecords : ∀ remainder, reg.parse place remainder (stream records) = .ok fields :=
      fun remainder => (parse_records hreg.create remainder records).trans hfields
    rcases tail with _ | ⟨b, tail⟩
    · rw [List.append_nil]
      refine .alike ?_ hrecords
      rintro _ _ ⟨⟩
    · refine .cut rfl htail (List.cons_ne_nil b tail) (hrecords .refuse) ?_ ?_
      · rw [parse_stream hreg.create .refuse records htail, hfields]
        rfl
      · rw [parse_stream hreg.create .keep records htail, hfields]
        rfl

/-- Bytes that start with no record are too few for one, or those of a record that is cut off. -/
theorem shape_of_not_startsWithRecord {bs : Bytes} (h : ¬StartsWithRecord bs) (hne : bs ≠ []) :
    bs.length ∈ [1, 2, 3] ∨ ∃ i₀ i₁ n₀ n₁ rest, bs = i₀ :: i₁ :: n₀ :: n₁ :: rest ∧
      rest.length < Bytes.ofLE [n₀, n₁] := by
  rcases bs with _ | ⟨i₀, _ | ⟨i₁, _ | ⟨n₀, _ | ⟨n₁, rest⟩⟩⟩⟩
  · exact absurd rfl hne
  · exact .inl (.head _)
  · exact .inl (.tail _ (.head _))
  · exact .inl (.tail _ (.tail _ (.head _)))
  · refine .inr ⟨i₀, i₁, n₀, n₁, rest, rfl, ?_⟩
    by_contra hlength
    exact h ⟨i₀, i₁, n₀, n₁, rest, rfl, Nat.not_lt.1 hlength⟩

/-- The two ways to go on behind the records agree up to there. What is read where bytes behind the
records are refused, is read as the same fields where they are kept. Where they are an error, it
says where they start and how many they are; they are too few for a record, or the record there
announces more of them; what is before them is read by itself, and where they are kept, it is read
as the same fields, with these bytes as one more field. Any other error is the same in both ways,
and where bytes behind the records are kept, they are no error. -/
theorem parse_keep_of_refuse (hreg : reg.IsBuiltin) (place : Place) (d : Bytes) :
    (∀ fields, reg.parse place .refuse d = .ok fields → reg.parse place .keep d = .ok fields) ∧
    (∀ offset remaining,
      reg.parse place .refuse d = .error (.unparseableTrailingBytes offset remaining) →
        offset + remaining = d.length ∧
        (remaining ∈ [1, 2, 3] ∨ ∃ i₀ i₁ n₀ n₁ rest,
          d.drop offset = i₀ :: i₁ :: n₀ :: n₁ :: rest ∧ rest.length < Bytes.ofLE [n₀, n₁]) ∧
        ∃ fields l, reg.parse place .refuse (d.take offset) = .ok fields ∧
          reg.parse place .keep d = .ok (fields ++ [.leftover l]) ∧
          l = .ofBytes place (d.drop offset) ∧ Record.data place l = d.drop offset) ∧
    (∀ e, reg.parse place .refuse d = .error e →
      (∀ offset remaining, e ≠ .unparseableTrailingBytes offset remaining) →
        reg.parse place .keep d = .error e) ∧
    ∀ offset remaining,
      reg.parse place .keep d ≠ .error (.unparseableTrailingBytes offset remaining) := by
  rcases hreg.parsing place d with @⟨result, hresult, h⟩ |
    @⟨records, tail, fields, rfl, htail, hne, hrecords, hrefuse, hkeep⟩
  · rw [h .refuse, h .keep]
    exact ⟨fun _ hfields => hfields, fun _ _ herror => absurd herror (hresult _ _),
      fun _ herror _ => herror, hresult⟩
  · rw [hrefuse, hkeep]
    refine ⟨?_, ?_, ?_, ?_⟩
    · rintro _ ⟨⟩
    · rintro _ _ ⟨⟩
      rw [List.drop_left, List.take_left]
      refine ⟨(List.length_append).symm, shape_of_not_startsWithRecord htail hne, fields, _,
        hrecords, rfl, rfl, ?_⟩
      cases place with
      | localHeader => rfl
      | central => rfl
    · rintro _ ⟨⟩ hother
      exact absurd rfl (hother _ _)
    · rintro _ _ ⟨⟩

/-- The registry of this library, with an id whose records are kept as if they were left over. -/
def sampleRegistry : Registry Empty :=
  builtin.register 0x4242 (.boxed (.leftover {}))

/-- A record with this id, and a timestamp that announces nine bytes and has one. -/
def sampleCut : Bytes :=
  [0x42, 0x42, 2, 0, 7, 8, 0x55, 0x54, 9, 0, 1]

/-- The record is read in both ways, and the bytes of the timestamp are kept behind it. -/
theorem parse_keep_of_refuse_sampleCut :
    sampleRegistry.IsBuiltin ∧ ∃ fields l,
      sampleRegistry.parse .central .refuse (sampleCut.take 6) = .ok fields ∧
      sampleRegistry.parse .central .keep sampleCut = .ok (fields ++ [.leftover l]) ∧
      Record.data .central l = [0x55, 0x54, 9, 0, 1] := by
  have hreg : sampleRegistry.IsBuiltin := isBuiltin_builtin.register 0x4242 trivial
  have hrefuse : sampleRegistry.parse .central .refuse sampleCut =
      .error (.unparseableTrailingBytes 6 5) := by decide +kernel
  obtain ⟨-, hcut, -, -⟩ := parse_keep_of_refuse hreg .central sampleCut
  obtain ⟨-, -, fields, l, hfields, hkeep, -, hdata⟩ := hcut 6 5 hrefuse
  exact ⟨hreg, fields, l, hfields, hkeep, hdata⟩

end Registry

end ZipArchive.Extra
