import ZipArchive.Proofs.Archive.FilledHeader
import ZipArchive.Proofs.Archive.Turns

/-!
# The layout of an archive

What writing an archive leaves in a sink depends on the position where it starts and on nothing else
of the sink. A `Layout` is that: the bytes that are left, and what the writing came to. Here each
part of an archive is given its layout, without sinks and without patches: an entry whose data came
to its end stands there with its filled local header. On a lawful sink the writer produces exactly
this, `writeEntries_turns` and `writeDirectory_turns`, also when it fails.
-/

namespace ZipArchive

open Extra (FieldList Record Zip64)

/-- The bytes that writing leaves behind, and what it comes to. -/
abbrev Layout (α : Type) := Bytes × Except Fault α

variable {κ σ τ : Type} [Record κ] [Sink τ]

/-! ### Layouts -/

/-- The layout of an entry whose local header is at `start`. -/
def Prepared.layout (p : Prepared κ) (mode : Zip64Mode) (start : Nat) : Layout CentralHeader :=
  let reserved := mode.reserves p.entry
  let entry := p.entry.reserveSizes reserved
  let data := p.data.pieces.flatten
  match entry.localHeader p.text.name reserved with
  | .error e => ([], .error e)
  | .ok blank =>
    match p.data.ending with
    | .error e => (blank.toBytes ++ data, .error e)
    | .ok digest =>
      match entry.patches p.text.name reserved start digest,
        p.entry.filledHeader p.text.name reserved digest with
      | .ok _, .ok filled =>
        (filled.toBytes ++ data, entry.centralHeader p.text reserved start digest)
      | .error e, _ => (blank.toBytes ++ data, .error e)
      | _, .error e => (blank.toBytes ++ data, .error e)

/-- The layout of a submission at `start`. -/
def layoutSubmission (o : WriterOptions σ) (start : Nat) (s : Except Fault (Submission κ)) :
    Layout CentralHeader :=
  match s.bind o.prepare with
  | .error e => ([], .error e)
  | .ok p => p.layout o.zip64 start

/-- The layout of submissions of which the first is at `start`. -/
def layoutEntries (o : WriterOptions σ) :
    Nat → List (Except Fault (Submission κ)) → Layout (List CentralHeader)
  | _, [] => ([], .ok [])
  | start, s :: ss =>
    match layoutSubmission o start s with
    | (out, .error e) => (out, .error e)
    | (out, .ok header) =>
      let rest := layoutEntries o (start + out.length) ss
      (out ++ rest.1, (header :: ·) <$> rest.2)

/-- The layout of a central directory at `start` with the end records behind it. -/
def layoutDirectory (mode : Zip64Mode) (headers : List CentralHeader) (start : Nat) :
    Layout Summary :=
  match centralDirectory headers with
  | .error e => ([], .error e)
  | .ok directory =>
    let record : EndRecord :=
      { entries := headers.length, directorySize := directory.length, directoryOffset := start }
    let zip64 := mode = .always || record.needsZip64 || headers.any CentralHeader.needsZip64
    let out := directory ++ record.toBytes zip64
    (out, .ok {
      entries := headers.length
      bytesIn := total (·.digest.size) headers
      bytesOut := total (·.digest.compressedSize) headers
      directoryOffset := start
      archiveSize := start + out.length })

/-! ### The writer on lawful sinks -/

variable [LawfulSink τ]

namespace Writing

private theorem turns_appendAll (pieces : List Bytes) (start : Nat) (bs : Bytes) :
    (pieces.forM fun piece => discard (append piece) : Writing τ Unit).Turns start bs
      (bs ++ pieces.flatten) (.ok ()) := by
  induction pieces generalizing bs with
  | nil => simpa using Turns.forM_nil (fun piece => discard (append piece)) start bs
  | cons piece pieces ih =>
    have hrest := ih (bs ++ piece)
    rw [List.append_assoc, ← List.flatten_cons] at hrest
    exact .forM_cons (Turns.append piece start bs).discard hrest

end Writing

/-- The patches of an entry turn its blank local header into the filled one. -/
theorem Entry.patches_turn {e : Entry κ} {name : Bytes} {reserved : Bool} {start : Nat} {d : Digest}
    {ps : List (Nat × Bytes)} {blank : LocalHeader} (data : Bytes)
    (hblank : (e.reserveSizes reserved).localHeader name reserved = .ok blank)
    (hps : (e.reserveSizes reserved).patches name reserved start d = .ok ps) :
    ∃ filled, e.filledHeader name reserved d = .ok filled ∧
      (ps.forM fun (position, bs) => Writing.patch position bs : Writing τ Unit).Turns start
        (blank.toBytes ++ data) (filled.toBytes ++ data) (.ok ()) := by
  obtain ⟨filling, filled, -, rfl, hfilled, hbytes⟩ := exists_filling_of_patches hblank hps
  exact ⟨filled, hfilled, .patchAll start data hbytes⟩

/-- On a lawful sink an entry is written as it is laid out. -/
theorem Prepared.write_turns (p : Prepared κ) (mode : Zip64Mode) (start : Nat) :
    (p.write mode : Writing τ CentralHeader).Turns start [] (p.layout mode start).1
      (p.layout mode start).2 := by
  simp only [write, layout]
  cases hblank : (p.entry.reserveSizes (mode.reserves p.entry)).localHeader p.text.name
    (mode.reserves p.entry) with
  | error e => exact .bind_error (.lift _ _ _)
  | ok blank =>
    refine .bind (.lift _ _ _) (.bind (.append _ _ _) ?_)
    refine .bind (Writing.turns_appendAll _ _ _) ?_
    cases hending : p.data.ending with
    | error e => exact .bind_error (.lift _ _ _)
    | ok digest =>
      refine .bind (.lift _ _ _) ?_
      simp only [List.length_nil, Nat.add_zero, List.nil_append]
      cases hps : (p.entry.reserveSizes (mode.reserves p.entry)).patches p.text.name
        (mode.reserves p.entry) start digest with
      | error e => exact .bind_error (.lift _ _ _)
      | ok ps =>
        obtain ⟨filled, hfilled, hturn⟩ :=
          Entry.patches_turn (τ := τ) p.data.pieces.flatten hblank hps
        simp only [hfilled]
        exact .bind (.lift _ _ _) (.bind hturn (.lift _ _ _))

/-- On a lawful sink a submission is written as it is laid out. -/
theorem writeSubmission_turns (o : WriterOptions σ) (s : Except Fault (Submission κ))
    (start : Nat) :
    (do let p ← s.bind o.prepare; p.write o.zip64 : Writing τ CentralHeader).Turns start []
      (layoutSubmission o start s).1 (layoutSubmission o start s).2 := by
  rw [layoutSubmission]
  cases s.bind o.prepare with
  | error e => exact .bind_error (.lift _ _ _)
  | ok p => exact .bind (.lift _ _ _) (p.write_turns o.zip64 start)

/-- On a lawful sink submissions are written as they are laid out. -/
theorem writeEntries_turns (o : WriterOptions σ) (ss : List (Except Fault (Submission κ)))
    (start : Nat) :
    (writeEntries o ss : Writing τ (List CentralHeader)).Turns start []
      (layoutEntries o start ss).1 (layoutEntries o start ss).2 := by
  induction ss generalizing start with
  | nil => exact .pure [] start []
  | cons s ss ih =>
    have hs := writeSubmission_turns (τ := τ) o s start
    rw [writeEntries, List.mapM_cons, layoutEntries]
    rcases hlayout : layoutSubmission o start s with ⟨out, e | header⟩
    · rw [hlayout] at hs
      exact .bind_error hs
    · rw [hlayout] at hs
      refine .bind hs ?_
      have hrest := (ih (start + out.length)).shift
      cases hres : (layoutEntries o (start + out.length) ss).2 with
      | error e =>
        simp only [hres] at hrest ⊢
        exact .bind_error hrest
      | ok headers =>
        simp only [hres] at hrest ⊢
        exact .bind hrest (.pure _ _ _)

/-- On a lawful sink the central directory and the end records are written as they are laid out. -/
theorem writeDirectory_turns (mode : Zip64Mode) (headers : List CentralHeader) (start : Nat) :
    (writeDirectory mode headers : Writing τ Summary).Turns start []
      (layoutDirectory mode headers start).1 (layoutDirectory mode headers start).2 := by
  simp only [writeDirectory, layoutDirectory]
  refine .bind (.position _ _) ?_
  cases hdir : centralDirectory headers with
  | error e => exact .bind_error (.lift _ _ _)
  | ok directory =>
    refine .bind (.lift _ _ _) (.bind (Writing.Turns.append _ _ _).discard ?_)
    refine .bind (Writing.Turns.append _ _ _).discard ?_
    refine .bind (.position _ _) ?_
    exact .pure _ _ _

end ZipArchive
