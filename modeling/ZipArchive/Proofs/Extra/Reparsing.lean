import ZipArchive.Proofs.Extra.Payloads

/-!
# Central Zip64 payloads read again

A central Zip64 payload does not say which values it has. So the first reading takes them in order,
and keeps the payload; once the header fields are known, it is read again with the values that these
call for, `reparse`. That can be done any number of times, `reparseAll`: the payload is kept through
all of it, a reading succeeds just if the values take up the payload, one that fails changes
nothing, and what the record holds in the end is due to the last one that succeeded,
`reparseAll_eq`. The values that a record was written with are read back when the fields call for
just these: `reparse_presence`. All this together is `reparse_parseCentral`.
-/

namespace ZipArchive.Extra.Zip64

/-- Which values there are. -/
structure Presence where
  /-- The size of the data. -/
  size : Bool
  /-- The size of the compressed data. -/
  compressedSize : Bool
  /-- The position of the local header. -/
  offset : Bool
  /-- The number of the disk. -/
  disk : Bool
deriving DecidableEq, Repr

/-- The number of bytes of the values. -/
def Presence.width (p : Presence) : Nat :=
  8 * p.size.toNat + 8 * p.compressedSize.toNat + 8 * p.offset.toNat + 4 * p.disk.toNat

/-- Which values the record has. -/
def presence (z : Zip64) : Presence where
  size := z.size?.isSome
  compressedSize := z.compressedSize?.isSome
  offset := z.offset?.isSome
  disk := z.disk?.isSome

/-- Reads the central payload again, with the values that there are. -/
def reparse (z : Zip64) (p : Presence) : Outcome Zip64 Unit :=
  z.reparseCentral p.size p.compressedSize p.offset p.disk

/-- The record after the central payload was read again any number of times, whatever each reading
came to. -/
def reparseAll (z : Zip64) (ps : List Presence) : Zip64 :=
  ps.foldl (fun z p => (z.reparse p).2) z

/-- The record of a central payload that is known to have the values. -/
def reread (raw : Bytes) (p : Presence) : Zip64 :=
  { ofFlags raw p.size p.compressedSize p.offset p.disk with rawCentral? := some raw }

/-! ### One reading -/

variable {z : Zip64} {raw : Bytes} {p : Presence}

/-- A kept payload of the right length is read with the values, and no other one is. -/
theorem reparse_eq (hraw : z.rawCentral? = some raw) (p : Presence) :
    z.reparse p =
      if raw.length = p.width then (.ok (), reread raw p)
      else (.error (malformed
        s!"central payload is {raw.length} bytes, header fields call for {p.width}"), z) := by
  rw [reparse, reparseCentral, hraw]
  rfl

private theorem reparse_eq_ok_iff (hraw : z.rawCentral? = some raw) :
    (z.reparse p).1 = .ok () ↔ p.width = raw.length := by
  rw [reparse_eq hraw]
  split
  case isTrue h => simp [h]
  case isFalse h => simp [Ne.symm h]

/-- A reading that fails changes nothing. -/
theorem reparse_of_error (hraw : z.rawCentral? = some raw) {e : Fault}
    (h : (z.reparse p).1 = .error e) : (z.reparse p).2 = z := by
  rw [reparse_eq hraw] at h ⊢
  split at h
  case isTrue => cases h
  case isFalse hlength => rw [if_neg hlength]

/-- The payload is kept whether it can be read with the values or not. -/
theorem rawCentral?_reparse (hraw : z.rawCentral? = some raw) (p : Presence) :
    (z.reparse p).2.rawCentral? = some raw := by
  rw [reparse_eq hraw]
  split
  case isTrue => rfl
  case isFalse => exact hraw

private theorem length_centralData_eq_width (f : Zip64) :
    f.centralData.length = f.presence.width := by
  rw [length_centralData, Nat.mul_add, Nat.mul_add]
  rfl

/-- The values of a record are read back when it is known which it has. -/
theorem reparse_presence {f : Zip64} (hraw : z.rawCentral? = some f.centralData) :
    z.reparse f.presence = (.ok (), { f with rawCentral? := some f.centralData }) := by
  have hvalues : ofFlags f.centralData f.presence.size f.presence.compressedSize
      f.presence.offset f.presence.disk = { f with rawCentral? := none } := f.ofFlags_centralData
  rw [reparse_eq hraw, if_pos f.length_centralData_eq_width, reread, hvalues]

/-- The values of a payload that they take up are written as that payload. -/
theorem centralData_reread (h : p.width = raw.length) : (reread raw p).centralData = raw :=
  centralData_ofFlags h.symm

/-! ### Any number of readings -/

/-- The payload is kept through all readings. -/
theorem rawCentral?_reparseAll (hraw : z.rawCentral? = some raw) (ps : List Presence) :
    (z.reparseAll ps).rawCentral? = some raw := by
  induction ps generalizing z with
  | nil => exact hraw
  | cons p ps ih => exact ih (rawCentral?_reparse hraw p)

/-- What a record holds is due to the last reading that succeeded. -/
theorem reparseAll_eq (hraw : z.rawCentral? = some raw) (ps : List Presence) :
    z.reparseAll ps =
      ((ps.filter (·.width = raw.length)).getLast?).elim z (reread raw) := by
  induction ps generalizing z with
  | nil => rfl
  | cons p ps ih =>
    have hrest := ih (rawCentral?_reparse hraw p)
    have hcons : z.reparseAll (p :: ps) = (z.reparse p).2.reparseAll ps := rfl
    rw [hcons, hrest, reparse_eq hraw]
    by_cases h : p.width = raw.length
    · rw [if_pos h.symm, List.filter_cons_of_pos (by simpa using h), List.getLast?_cons]
      cases (ps.filter (·.width = raw.length)).getLast? <;> rfl
    · rw [if_neg (Ne.symm h), List.filter_cons_of_neg (by simpa using h)]

/-- A record that has a payload as its central one has it after all readings of that. -/
theorem centralData_reparseAll (hraw : z.rawCentral? = some raw) (hdata : z.centralData = raw)
    (ps : List Presence) : (z.reparseAll ps).centralData = raw := by
  rw [reparseAll_eq hraw]
  cases hlast : (ps.filter (·.width = raw.length)).getLast? with
  | none => exact hdata
  | some p =>
    have hp := (List.mem_filter.1 (List.mem_of_getLast? hlast)).2
    exact centralData_reread (of_decide_eq_true hp)

/-! ### From the first reading on -/

/-- A central payload that is read is kept. -/
theorem rawCentral?_of_ofCentral (h : ofCentral raw = .ok z) : z.rawCentral? = some raw := by
  rw [ofCentral] at h
  split at h
  case isTrue =>
    obtain rfl := Except.ok.inj h
    rfl
  case isFalse => cases h

/-- A payload is read from a span of a buffer. -/
theorem exists_of_parseCentral {z₀ : Zip64} {buf : Array UInt8} {offset length : Nat}
    (h : Record.parseCentral z₀ buf offset length = (.ok (), z)) :
    ∃ raw, Buffer.span buf offset length = .ok raw ∧ ofCentral raw = .ok z := by
  have hread : inSpan z₀ buf offset length (fun payload => Outcome.ofExcept z₀ (ofCentral payload)) =
      (.ok (), z) := h
  rw [inSpan] at hread
  split at hread
  case h_1 raw hspan => exact ⟨raw, hspan, ofExcept_eq_ok_iff.1 hread⟩
  case h_2 => cases hread

/-- Wherever the central payload of a record stands in a buffer, any record reads it, and reads it
again as the values that were written, once it is known which there were. After the first reading of
any payload, and any number of readings after that, the next one succeeds just if its values take up
the payload, and else changes nothing; the record is that of the last reading that succeeded, and
its central payload is what was read first. -/
theorem reparse_parseCentral (z₀ : Zip64) (buf : Array UInt8) (offset length : Nat) :
    (∀ f : Zip64, Buffer.span buf offset length = .ok f.centralData →
      ∃ z, Record.parseCentral z₀ buf offset length = (.ok (), z) ∧
        z.reparse f.presence = (.ok (), { f with rawCentral? := some f.centralData })) ∧
    ∀ z, Record.parseCentral z₀ buf offset length = (.ok (), z) →
      ∃ raw, Buffer.span buf offset length = .ok raw ∧ ∀ ps,
        (∀ p, ((z.reparseAll ps).reparse p).1 = .ok () ↔ p.width = raw.length) ∧
        (∀ p e, ((z.reparseAll ps).reparse p).1 = .error e →
          ((z.reparseAll ps).reparse p).2 = z.reparseAll ps) ∧
        z.reparseAll ps = ((ps.filter (·.width = raw.length)).getLast?).elim z (reread raw) ∧
        (z.reparseAll ps).centralData = raw := by
  refine ⟨fun f hspan => ?_, fun z h => ?_⟩
  · have hparse : Record.parseCentral z₀ buf offset length =
        Outcome.ofExcept z₀ (ofCentral f.centralData) := inSpan_of_span hspan
    rw [ofCentral_centralData, Outcome.ofExcept_ok] at hparse
    exact ⟨_, hparse, reparse_presence rfl⟩
  · obtain ⟨raw, hspan, hread⟩ := exists_of_parseCentral h
    have hraw := rawCentral?_of_ofCentral hread
    refine ⟨raw, hspan, fun ps => ?_⟩
    have hkept := rawCentral?_reparseAll hraw ps
    exact ⟨fun p => reparse_eq_ok_iff hkept, fun p e => reparse_of_error hkept,
      reparseAll_eq hraw ps, centralData_reparseAll hraw (centralData_of_ofCentral hread) ps⟩

/-- The central payload of an offset and a disk number. -/
def sampleRaw : Bytes :=
  [5, 0, 0, 0, 0, 0, 0, 0, 2, 0, 0, 0]

/-- The first reading takes the offset for a size. It is read back as what it was, and with other
values after readings some of which fail. -/
theorem reparse_parseCentral_sampleRaw :
    ∃ z : Zip64, Record.parseCentral ({} : Zip64) (9 :: sampleRaw).toArray 1 12 = (.ok (), z) ∧
      z.size? = some 5 ∧
      z.reparse ⟨false, false, true, true⟩ =
        (.ok (), { offset? := some 5, disk? := some 2, rawCentral? := some sampleRaw }) ∧
      z.reparseAll [⟨false, false, true, true⟩, ⟨false, true, false, true⟩,
          ⟨true, true, false, false⟩] =
        { compressedSize? := some 5, disk? := some 2, rawCentral? := some sampleRaw } := by
  obtain ⟨hwritten, hread⟩ := reparse_parseCentral {} (9 :: sampleRaw).toArray 1 12
  obtain ⟨z, hparse, hvalues⟩ := hwritten { offset? := some 5, disk? := some 2 } (by decide)
  obtain ⟨raw, hspan, hall⟩ := hread z hparse
  obtain rfl : sampleRaw = raw := Except.ok.inj (by rw [← hspan]; decide)
  have hfirst : Record.parseCentral ({} : Zip64) (9 :: sampleRaw).toArray 1 12 =
      (.ok (), { size? := some 5, disk? := some 2, rawCentral? := some sampleRaw }) := by
    decide +kernel
  obtain rfl := congrArg Prod.snd (hfirst.symm.trans hparse)
  exact ⟨_, hparse, rfl, hvalues, (hall _).2.2.1.trans (by decide +kernel)⟩

end ZipArchive.Extra.Zip64
