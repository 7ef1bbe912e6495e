import ZipArchive.Proofs.Archive.BreakingOff
import ZipArchive.Proofs.Archive.Recorder

/-!
# Patching equals having known the values

A written entry asks its sink for three things: to append the blank local header, to append the
pieces of data, and to patch the header. `Prepared.exists_records_of_write` says so for any sink.
On a lawful sink the patches lie inside the header, and what they leave is the header that would
have been appended if checksum and sizes had been known: `Prepared.write_eq_filled`.
-/

namespace ZipArchive

open Extra (FieldList Opaque Record Zip64)

variable {κ τ : Type} [Record κ] [Sink τ]

namespace Prepared

variable {p : Prepared κ} {mode : Zip64Mode} {s t : τ} {central : CentralHeader}

/-- An entry that is written has its blank header appended, its data behind it, and then patches
made. -/
theorem exists_records_of_write (h : (p.write mode).outcome s = (.ok central, t)) :
    ∃ blank start u d ps appended,
      p.blank mode = .ok blank ∧
      Sink.append s blank.toBytes = (.ok start, u) ∧
      p.data.ending = .ok d ∧
      (p.entry.reserveSizes (mode.reserves p.entry)).patches p.text.name (mode.reserves p.entry)
        start d = .ok ps ∧
      (∀ c ∈ appended, ∃ piece ∈ p.data.pieces, ∃ position,
        c = (.append piece, .ok (some position))) ∧
      (p.write mode).Records s central t
        ((.append blank.toBytes, .ok (some start)) ::
          (appended ++ ps.map fun q => (.patch q.1 q.2, .ok none))) := by
  obtain ⟨blank, hblank, h⟩ := Writing.outcome_lift_bind_eq_ok_iff.1 h
  obtain ⟨start, u, hstart, h⟩ := Writing.outcome_bind_eq_ok_iff.1 h
  obtain ⟨⟨⟩, v, hpieces, h⟩ := Writing.outcome_bind_eq_ok_iff.1 h
  obtain ⟨d, hending, h⟩ := Writing.outcome_lift_bind_eq_ok_iff.1 h
  obtain ⟨ps, hps, h⟩ := Writing.outcome_lift_bind_eq_ok_iff.1 h
  obtain ⟨⟨⟩, w, hpatches, h⟩ := Writing.outcome_bind_eq_ok_iff.1 h
  obtain rfl : w = t := congrArg Prod.snd h
  have hcentral := congrArg Prod.fst h
  obtain ⟨appended, happended, hall⟩ := Writing.Records.exists_appendAll hpieces
  refine ⟨blank, start, u, d, ps, appended, hblank, hstart, hending, hps, hall, ?_⟩
  have hrecords : (p.write mode).Records s central w
      ([] ++ ([(.append blank.toBytes, .ok (some start))] ++ (appended ++ ([] ++ ([] ++
        (ps.map (fun q => (.patch q.1 q.2, .ok none)) ++ [])))))) :=
    .bind (.lift hblank s) (.bind (.append hstart) (.bind happended (.bind (.lift hending v)
      (.bind (.lift hps v) (.bind (.patchAll hpatches) (.lift hcentral w))))))
  simpa using hrecords

/-- Patching equals having known the values. An entry that is written on a lawful sink has its blank
header appended, its data behind it, and then patches made that all succeed and lie inside the
header. They enter the digest where the header has it, and the sink ends up with the header that
would have been appended if the digest had been known. -/
theorem write_eq_filled [LawfulSink τ] {base : Nat} {before : Bytes}
    (hs : LawfulSink.Holds s base before) (h : (p.write mode).outcome s = (.ok central, t)) :
    ∃ d blank filled filling appended,
      p.data.ending = .ok d ∧
      p.blank mode = .ok blank ∧
      p.filled mode d = .ok filled ∧
      p.entry.Filling p.text.name d (mode.reserves p.entry) filling ∧
      blank.toBytes.overwriteAll filling = .ok filled.toBytes ∧
      LawfulSink.Holds t base (before ++ (filled.toBytes ++ p.data.pieces.flatten)) ∧
      (p.write mode).Records s central t
        ((.append blank.toBytes, .ok (some (base + before.length))) ::
          (appended ++
            filling.map fun q => (.patch (base + before.length + q.1) q.2, .ok none))) ∧
      (∀ c ∈ appended, ∃ piece ∈ p.data.pieces, ∃ position,
        c = (.append piece, .ok (some position))) ∧
      (∀ q ∈ filling, q.1 + q.2.length ≤ blank.toBytes.length) ∧
      base + before.length + blank.toBytes.length ≤ Sink.position t := by
  obtain ⟨blank, start, u, d, ps, appended, hblank, happend, hending, hps, hall, hrecords⟩ :=
    exists_records_of_write h
  obtain rfl : base + before.length = start := by
    obtain ⟨_, happend', -⟩ := LawfulSink.append_eq blank.toBytes hs
    exact Except.ok.inj (congrArg Prod.fst (happend'.symm.trans happend))
  obtain ⟨filling, filled, hfilling, rfl, hfilled, hbytes⟩ :=
    Entry.exists_filling_of_patches hblank hps
  have hholds : LawfulSink.Holds t base (before ++ (filled.toBytes ++ p.data.pieces.flatten)) := by
    obtain ⟨t', ht', hholds⟩ := (p.write_turns (τ := τ) mode _).run hs
    obtain rfl : t' = t := congrArg Prod.snd (ht'.symm.trans h)
    rw [Prepared.blank] at hblank
    simpa only [layout, hblank, hending, hps, hfilled] using hholds
  refine ⟨d, blank, filled, filling, appended, hending, hblank, hfilled, hfilling, hbytes, hholds,
    ?_, hall, Bytes.le_length_of_overwriteAll hbytes, ?_⟩
  · rwa [List.map_map] at hrecords
  · rw [LawfulSink.position_eq hholds, ← Bytes.length_of_overwriteAll hbytes]
    simp only [List.length_append]
    omega

/-- The digest of three bytes that are put out as many more. -/
def sampleDigest : Digest where
  checksum := 0x11223344
  size := 3
  compressedSize := 0x100000000

/-- A file that is too large for sizes of four bytes, with several records of one id and with bytes
that form no record between them. -/
def sampleLarge : Prepared Opaque where
  entry :=
    { name := "a"
      size? := some 0xFFFFFFFF
      extra := [.unrecognized { id := 0xCAFE, localCopy := [1] }, .leftover { localCopy := [2, 3] },
        .custom { id := Zip64.recordId, localCopy := [4, 5, 6] }, .zip64 { size? := some 7 },
        .leftover { localCopy := [8] }] }
  text := { name := [0x61], comment := [], encoding := .utf8 .strict }
  data := { pieces := [[1], [2, 3]], ending := .ok sampleDigest }

/-- The sample written from a position on that four bytes do not hold. -/
def sampleLargeOutcome : Outcome ContinuedSink CentralHeader :=
  (sampleLarge.write .asNeeded).outcome { base := marker32 }

/-- The sizes of the sample are given in advance as too large, so that they are patched into a Zip64
record, the first of the two that the entry has. Behind the header there is the data. -/
theorem sampleLarge_write_eq_filled :
    sampleLargeOutcome.1.isOk = true ∧
    ∃ blank filled filling,
      sampleLarge.blank .asNeeded = .ok blank ∧
      sampleLarge.filled .asNeeded sampleDigest = .ok filled ∧
      sampleLarge.entry.Filling [0x61] sampleDigest true filling ∧
      blank.toBytes.overwriteAll filling = .ok filled.toBytes ∧
      LawfulSink.Holds sampleLargeOutcome.2 marker32 (filled.toBytes ++ [1, 2, 3]) ∧
      ∀ q ∈ filling, q.1 + q.2.length ≤ blank.toBytes.length := by
  have hok : sampleLargeOutcome.1.isOk = true := by decide +kernel
  refine ⟨hok, ?_⟩
  cases hcentral : sampleLargeOutcome.1 with
  | error e =>
    rw [hcentral] at hok
    cases hok
  | ok central =>
    obtain ⟨d, blank, filled, filling, _, hending, hblank, hfilled, hfilling, hbytes, hholds, -, -,
      hbounds, -⟩ := write_eq_filled
        (ContinuedSink.holds_tail { base := marker32 }) (Prod.ext hcentral rfl)
    obtain rfl : sampleDigest = d := Except.ok.inj hending
    exact ⟨blank, filled, filling, hblank, hfilled, hfilling, hbytes, hholds, hbounds⟩

/-- The sizes are the payload that replaced that of the caller's record, the first one. -/
example :
    (Writing.outcome (sampleLarge.write .asNeeded)
      (Recorder.mk ({ base := marker32 } : ContinuedSink) [])).2.record.drop 3 =
      [(.patch (marker32 + 14) [0x44, 0x33, 0x22, 0x11], .ok none),
        (.patch (marker32 + 30 + 1 + 11) [3, 0, 0, 0, 0, 0, 0, 0, 0, 0, 0, 0, 1, 0, 0, 0],
          .ok none)] := by
  decide +kernel

end Prepared

end ZipArchive
