import ZipArchive.Extra.Timestamp
import ZipArchive.Proofs.Except
import ZipArchive.Proofs.LittleEndian

/-!
# Laws of extended timestamps

The local payload of a timestamp is read as a timestamp with the same times: `ofLocal_localData`. A
central payload is read back only if the flag of the time of modification is not set without there
being such a time, `WellFormed`; all operations keep it so. Payloads that are read are written
again: `localData_of_ofLocal` and `centralData_of_withCentral`. There is one time of modification
for both payloads, and a central payload changes the local one in that time only:
`localData_of_withCentral`.
-/

namespace ZipArchive.Extra.Timestamp

/-- The central payload has the time of modification that its flags promise. -/
def WellFormed (t : Timestamp) : Prop :=
  t.centralFlags &&& modifyBit ≠ 0 → t.modify?.isSome

/-! ### Flags -/

/-- Sets or clears the flags of all times. -/
def setBits (flags : UInt8) (modify access create : Bool) : UInt8 :=
  setBit (setBit (setBit flags modifyBit modify) accessBit access) createBit create

private theorem flags_eq (t : Timestamp) :
    t.flags = setBits t.readFlags t.modify?.isSome t.access?.isSome t.create?.isSome := rfl

/-- Facts about flags are checked for each of them. -/
theorem forall_flags {p : UInt8 → Prop} (h : ∀ n < 256, p (UInt8.ofNat n)) (flags : UInt8) :
    p flags := by
  have hflags := h flags.toNat flags.toNat_lt
  rwa [UInt8.ofNat_toNat] at hflags

private theorem setBits_setBits (flags : UInt8) : ∀ modify access create : Bool,
    setBits (setBits flags modify access create) modify access create =
      setBits flags modify access create :=
  @forall_flags (fun flags => ∀ m a c : Bool, setBits (setBits flags m a c) m a c =
    setBits flags m a c) (by decide +kernel) flags

/-- Each flag says whether its time is there. -/
theorem setBits_and_eq_zero_iff (flags : UInt8) : ∀ modify access create : Bool,
    (setBits flags modify access create &&& modifyBit = 0 ↔ modify = false) ∧
    (setBits flags modify access create &&& accessBit = 0 ↔ access = false) ∧
    (setBits flags modify access create &&& createBit = 0 ↔ create = false) :=
  @forall_flags (fun flags => ∀ m a c : Bool, (setBits flags m a c &&& modifyBit = 0 ↔ m = false) ∧
    (setBits flags m a c &&& accessBit = 0 ↔ a = false) ∧
    (setBits flags m a c &&& createBit = 0 ↔ c = false)) (by decide +kernel) flags

private theorem setBit_modifyBit (flags : UInt8) : ∀ on : Bool,
    setBit flags modifyBit on &&& modifyBit ≠ 0 → on = true :=
  @forall_flags (fun flags => ∀ on : Bool, setBit flags modifyBit on &&& modifyBit ≠ 0 → on = true)
    (by decide +kernel) flags

/-- The flags of the other times do not touch that of the time of modification. -/
theorem setBit_and_modifyBit (flags : UInt8) : ∀ on : Bool,
    setBit flags accessBit on &&& modifyBit = flags &&& modifyBit ∧
    setBit flags createBit on &&& modifyBit = flags &&& modifyBit :=
  @forall_flags (fun flags => ∀ on : Bool,
    setBit flags accessBit on &&& modifyBit = flags &&& modifyBit ∧
    setBit flags createBit on &&& modifyBit = flags &&& modifyBit) (by decide +kernel) flags

/-! ### Reading times -/

/-- A time is read back by its flag. -/
theorem takeTime_timeBytes {flags bit : UInt8} {time? : Option Int32} (rest : Bytes)
    (h : flags &&& bit = 0 ↔ time?.isSome = false) :
    takeTime flags bit (timeBytes time? ++ rest) = .ok (time?, rest) := by
  cases time? with
  | none => rw [takeTime, if_pos (h.2 rfl)]; rfl
  | some time =>
    have hflag : flags &&& bit ≠ 0 := fun hzero => nomatch h.1 hzero
    have hbytes : timeBytes (some time) = bytes32 time.toUInt32 := rfl
    have hlength : (bytes32 time.toUInt32).length = 4 := Bytes.length_toLE ..
    have henough : ¬(bytes32 time.toUInt32 ++ rest).length < 4 := by
      rw [List.length_append, hlength]
      omega
    rw [takeTime, if_neg hflag, hbytes, if_neg henough, List.take_left' hlength,
      List.drop_left' hlength, Bytes.ofLE_bytes32, UInt32.ofNat_toNat, Int32.toInt32_toUInt32]

/-- What is flagged was read. -/
theorem isSome_of_takeTime {flags bit : UInt8} {bs rest : Bytes} {time? : Option Int32}
    (h : takeTime flags bit bs = .ok (time?, rest)) (hflag : flags &&& bit ≠ 0) :
    time?.isSome := by
  rw [takeTime, if_neg hflag] at h
  split at h
  · cases h
  · cases h
    rfl

/-! ### Local payloads -/

/-- A timestamp with flags as they are written. -/
theorem ofLocal_localData (t : Timestamp) :
    ofLocal t.localData = .ok { t with readFlags := t.flags, centralFlags := t.flags } := by
  obtain ⟨hmodify, haccess, hcreate⟩ := setBits_and_eq_zero_iff t.readFlags t.modify?.isSome
    t.access?.isSome t.create?.isSome
  rw [← flags_eq] at hmodify haccess hcreate
  have hlast := takeTime_timeBytes [] hcreate
  rw [List.append_nil] at hlast
  rw [localData, ofLocal, List.append_assoc, takeTime_timeBytes _ hmodify]
  simp only [bind, Except.bind]
  rw [takeTime_timeBytes _ haccess]
  simp only
  rw [hlast]
  rfl

/-- What is read from the local payload has the same local payload. -/
theorem localData_withFlags (t : Timestamp) (central : UInt8) :
    localData { t with readFlags := t.flags, centralFlags := central } = t.localData := by
  have hflags : flags { t with readFlags := t.flags, centralFlags := central } = t.flags :=
    setBits_setBits _ _ _ _
  rw [localData, hflags]
  rfl

theorem wellFormed_of_ofLocal {bs : Bytes} {t : Timestamp} (h : ofLocal bs = .ok t) :
    t.WellFormed := by
  cases bs with
  | nil => cases h
  | cons flags bs =>
    obtain ⟨⟨modify?, _⟩, hmodify, h⟩ := bind_eq_ok_iff.1 h
    obtain ⟨⟨access?, _⟩, -, h⟩ := bind_eq_ok_iff.1 h
    obtain ⟨⟨create?, _⟩, -, h⟩ := bind_eq_ok_iff.1 h
    obtain ⟨_, -, h⟩ := bind_eq_ok_iff.1 h
    cases h
    exact isSome_of_takeTime hmodify

/-! ### Central payloads -/

/-- What the central payload tells of a timestamp. -/
def centralPart (t : Timestamp) : Timestamp where
  centralFlags := t.centralFlags
  modify? := if t.centralFlags &&& modifyBit = 0 then none else t.modify?

theorem withCentral_centralData {t : Timestamp} (h : t.WellFormed) :
    withCentral {} t.centralData = .ok t.centralPart := by
  rw [centralPart]
  by_cases hflag : t.centralFlags &&& modifyBit = 0
  · rw [centralData, withCentral, if_pos hflag, takeTime, if_pos hflag, if_pos hflag]
    rfl
  · have hflagged : t.centralFlags &&& modifyBit = 0 ↔ t.modify?.isSome = false := by
      rw [h hflag]
      exact iff_of_false hflag (by decide)
    have htime := takeTime_timeBytes [] hflagged
    rw [List.append_nil] at htime
    rw [centralData, withCentral, if_neg hflag, if_neg hflag, htime]
    cases t.modify? with
    | none => rfl
    | some time => rfl

theorem centralData_centralPart (t : Timestamp) : t.centralPart.centralData = t.centralData := by
  by_cases hflag : t.centralFlags &&& modifyBit = 0
  · simp [centralData, centralPart, hflag]
  · simp [centralData, centralPart, hflag]

theorem wellFormed_of_withCentral {bs : Bytes} {t u : Timestamp}
    (h : t.withCentral bs = .ok u) : u.WellFormed := by
  cases bs with
  | nil => cases h
  | cons flags bs =>
    obtain ⟨⟨modify?, _⟩, hmodify, h⟩ := bind_eq_ok_iff.1 h
    obtain ⟨_, -, h⟩ := bind_eq_ok_iff.1 h
    cases h
    intro hflag
    obtain ⟨time, rfl⟩ := Option.isSome_iff_exists.1 (isSome_of_takeTime hmodify hflag)
    rfl

/-! ### Changing times -/

theorem wellFormed_setModify (t : Timestamp) (time? : Option Int32) :
    (t.setModify time?).WellFormed :=
  setBit_modifyBit t.centralFlags time?.isSome

theorem WellFormed.setAccess {t : Timestamp} (h : t.WellFormed) (time? : Option Int32) :
    (t.setAccess time?).WellFormed := by
  intro hflag
  have hsame := (setBit_and_modifyBit t.centralFlags time?.isSome).1
  exact h (hsame ▸ hflag)

theorem WellFormed.setCreate {t : Timestamp} (h : t.WellFormed) (time? : Option Int32) :
    (t.setCreate time?).WellFormed := by
  intro hflag
  have hsame := (setBit_and_modifyBit t.centralFlags time?.isSome).2
  exact h (hsame ▸ hflag)

/-! ### What is read is written -/

/-- Flags that say which times are there stay as they are. -/
theorem setBits_self (flags : UInt8) :
    setBits flags (flags &&& modifyBit != 0) (flags &&& accessBit != 0)
      (flags &&& createBit != 0) = flags :=
  @forall_flags (fun flags => setBits flags (flags &&& modifyBit != 0) (flags &&& accessBit != 0)
    (flags &&& createBit != 0) = flags) (by decide +kernel) flags

/-- What was taken off the front is the time, if there is one, and its bytes. -/
theorem of_takeTime {flags bit : UInt8} {bs rest : Bytes} {time? : Option Int32}
    (h : takeTime flags bit bs = .ok (time?, rest)) :
    bs = timeBytes time? ++ rest ∧ time?.isSome = (flags &&& bit != 0) := by
  rw [takeTime] at h
  split at h
  case isTrue hflag =>
    obtain ⟨rfl, rfl⟩ := Prod.mk.inj (Except.ok.inj h)
    exact ⟨rfl, by rw [hflag]; rfl⟩
  case isFalse hflag =>
    split at h
    case isTrue => cases h
    case isFalse hlength =>
      obtain ⟨rfl, rfl⟩ := Prod.mk.inj (Except.ok.inj h)
      have htake : (bs.take 4).length = 4 := by
        rw [List.length_take]
        omega
      refine ⟨?_, (bne_iff_ne.2 hflag).symm⟩
      have hbytes : timeBytes (some (UInt32.ofNat (Bytes.ofLE (bs.take 4))).toInt32) =
          bs.take 4 := by
        rw [timeBytes, Option.elim_some, UInt32.toUInt32_toInt32, Bytes.bytes32_ofNat,
          Bytes.toLE_ofLE_of_length htake]
      rw [hbytes, List.take_append_drop]

theorem of_atEnd {bs : Bytes} (h : atEnd bs = .ok ()) : bs = [] := by
  rw [atEnd] at h
  split at h
  case isTrue hempty => exact List.isEmpty_iff.1 hempty
  case isFalse => cases h

/-- A local payload that is read is written again. -/
theorem localData_of_ofLocal {payload : Bytes} {t : Timestamp} (h : ofLocal payload = .ok t) :
    t.localData = payload := by
  cases payload with
  | nil => cases h
  | cons flags bs =>
    obtain ⟨⟨modify?, bs₁⟩, hmodify, h⟩ := bind_eq_ok_iff.1 h
    obtain ⟨⟨access?, bs₂⟩, haccess, h⟩ := bind_eq_ok_iff.1 h
    obtain ⟨⟨create?, bs₃⟩, hcreate, h⟩ := bind_eq_ok_iff.1 h
    obtain ⟨⟨⟩, hend, h⟩ := bind_eq_ok_iff.1 h
    obtain rfl := Except.ok.inj h
    obtain ⟨rfl, hmodifyFlag⟩ := of_takeTime hmodify
    obtain ⟨rfl, haccessFlag⟩ := of_takeTime haccess
    obtain ⟨rfl, hcreateFlag⟩ := of_takeTime hcreate
    obtain rfl := of_atEnd hend
    rw [localData, flags_eq]
    simp only [hmodifyFlag, haccessFlag, hcreateFlag, setBits_self, List.append_nil,
      List.append_assoc]

/-- What a central payload says: its flags, the time of modification if one is flagged, and nothing
else. -/
theorem of_withCentral {payload : Bytes} {t u : Timestamp} (h : t.withCentral payload = .ok u) :
    ∃ flags modify?, payload = flags :: timeBytes modify? ∧
      modify?.isSome = (flags &&& modifyBit != 0) ∧
      u = { t with centralFlags := flags, modify? := modify? <|> t.modify? } := by
  cases payload with
  | nil => cases h
  | cons flags bs =>
    obtain ⟨⟨modify?, rest⟩, hmodify, h⟩ := bind_eq_ok_iff.1 h
    obtain ⟨⟨⟩, hend, h⟩ := bind_eq_ok_iff.1 h
    obtain rfl := Except.ok.inj h
    obtain ⟨rfl, hflag⟩ := of_takeTime hmodify
    obtain rfl := of_atEnd hend
    exact ⟨flags, modify?, by rw [List.append_nil], hflag, rfl⟩

/-- A central payload that is read is written again. -/
theorem centralData_of_withCentral {payload : Bytes} {t u : Timestamp}
    (h : t.withCentral payload = .ok u) : u.centralData = payload := by
  obtain ⟨flags, modify?, rfl, hflag, rfl⟩ := of_withCentral h
  cases modify? with
  | none =>
    have hclear : flags &&& modifyBit = 0 := by simpa using hflag.symm
    simp only [centralData, hclear, if_true]
    rfl
  | some time =>
    have hset : ¬flags &&& modifyBit = 0 := by simpa using hflag.symm
    simp only [centralData, hset, if_false]
    rfl

/-! ### The local payload after a central one was read -/

/-- A local payload with another time of modification: the time is flagged, and stands first. -/
def withModifyBytes (own time : Bytes) : Bytes :=
  match own, time with
  | flags :: times, _ :: _ =>
    (flags ||| modifyBit) :: (time ++ if flags &&& modifyBit = 0 then times else times.drop 4)
  | _, _ => own

private theorem setBits_or_modifyBit (flags : UInt8) : ∀ modify access create : Bool,
    setBits flags modify access create ||| modifyBit = setBits flags true access create :=
  @forall_flags (fun flags => ∀ m a c : Bool,
    setBits flags m a c ||| modifyBit = setBits flags true a c) (by decide +kernel) flags

theorem length_timeBytes (time? : Option Int32) :
    (timeBytes time?).length = 4 * time?.isSome.toNat := by
  cases time? with
  | none => rfl
  | some time => exact Bytes.length_toLE ..

/-- A time of modification that is read from a central payload is that of the local payload too. -/
theorem localData_of_withCentral {payload : Bytes} {t u : Timestamp}
    (h : t.withCentral payload = .ok u) :
    u.localData = withModifyBytes t.localData (payload.drop 1) := by
  obtain ⟨flags, modify?, rfl, -, rfl⟩ := of_withCentral h
  rw [List.drop_one, List.tail_cons]
  cases modify? with
  | none => rfl
  | some time =>
    have hflag := (setBits_and_eq_zero_iff t.readFlags t.modify?.isSome t.access?.isSome
      t.create?.isSome).1
    have htimes : (if t.flags &&& modifyBit = 0
        then timeBytes t.modify? ++ timeBytes t.access? ++ timeBytes t.create?
        else (timeBytes t.modify? ++ timeBytes t.access? ++ timeBytes t.create?).drop 4) =
        timeBytes t.access? ++ timeBytes t.create? := by
      cases hmodify : t.modify? with
      | none =>
        rw [hmodify] at hflag
        rw [flags_eq, hmodify, if_pos (hflag.2 rfl)]
        rfl
      | some own =>
        rw [hmodify] at hflag
        rw [flags_eq, hmodify, if_neg fun hzero => Bool.noConfusion (hflag.1 hzero)]
        rfl
    have hflags : t.flags ||| modifyBit =
        setBits t.readFlags true t.access?.isSome t.create?.isSome :=
      setBits_or_modifyBit t.readFlags _ _ _
    have hbytes : ∃ b bs, timeBytes (some time) = b :: bs := ⟨_, _, rfl⟩
    obtain ⟨b, bs, hbytes⟩ := hbytes
    rw [localData, localData, hbytes, withModifyBytes, ← hbytes, htimes, hflags, flags_eq,
      List.append_assoc]
    rfl

/-- Whether a central payload is read does not depend on what the record holds. -/
theorem exists_withCentral {payload : Bytes} {t u : Timestamp} (h : t.withCentral payload = .ok u)
    (s : Timestamp) : ∃ v, s.withCentral payload = .ok v := by
  cases payload with
  | nil => cases h
  | cons flags bs =>
    obtain ⟨⟨modify?, rest⟩, hmodify, h⟩ := bind_eq_ok_iff.1 h
    obtain ⟨⟨⟩, hend, -⟩ := bind_eq_ok_iff.1 h
    exact ⟨_, bind_eq_ok_iff.2 ⟨_, hmodify, bind_eq_ok_iff.2 ⟨_, hend, rfl⟩⟩⟩

theorem length_centralData_le (t : Timestamp) : t.centralData.length ≤ 5 := by
  have hmodify := t.modify?.isSome.toNat_le
  rw [centralData, List.length_cons]
  split
  · exact Nat.le_of_ble_eq_true rfl
  · rw [length_timeBytes]
    omega

theorem length_localData_le (t : Timestamp) : t.localData.length ≤ 13 := by
  have hmodify := t.modify?.isSome.toNat_le
  have haccess := t.access?.isSome.toNat_le
  have hcreate := t.create?.isSome.toNat_le
  rw [localData, List.length_cons, List.length_append, List.length_append, length_timeBytes,
    length_timeBytes, length_timeBytes]
  omega

end ZipArchive.Extra.Timestamp
