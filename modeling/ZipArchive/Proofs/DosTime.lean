import ZipArchive.Entry
import ZipArchive.Proofs.Calendar

/-!
# Packed times

A moment is what calendar and clock show so many seconds after the start of 1970: `Moment.IsAt`. The
words of a header say this for moments from 1980 to 2107, to an even second. They say the first such
moment for earlier ones and the last for later ones, and never decrease: `Entry.moment_dosTime`. The
last follows from a number for each moment that grows with the seconds, as the words in one number
are that number cut off at both ends: `DosTime.number_ofSeconds`.
-/

namespace ZipArchive

/-! ### Moments -/

/-- What calendar and clock show. -/
structure Moment where
  /-- The date. -/
  date : Date
  /-- The hour. -/
  hour : Nat
  /-- The minute of the hour. -/
  minute : Nat
  /-- The second of the minute. -/
  second : Nat
deriving DecidableEq, Repr

namespace Moment

/-- Calendar and clock show this so many seconds after the start of 1970, or before it if the number
is negative. -/
structure IsAt (m : Moment) (seconds : Int) : Prop where
  hour_lt : m.hour < 24
  minute_lt : m.minute < 60
  second_lt : m.second < 60
  exists_isDay : ∃ days, Date.IsDay days m.date ∧
    seconds = days * 86400 + (m.hour * 3600 + m.minute * 60 + m.second : Nat)

/-- What is shown, computed from the seconds. -/
def ofSeconds (seconds : Int) : Moment :=
  let clock := (seconds % 86400).toNat
  { date := Date.ofDays (seconds / 86400)
    hour := clock / 3600
    minute := clock / 60 % 60
    second := clock % 60 }

private theorem isAt_iff {m : Moment} {seconds : Int} : m.IsAt seconds ↔ m = ofSeconds seconds := by
  constructor
  · rintro ⟨hhour, hminute, hsecond, days, hday, rfl⟩
    obtain ⟨date, hour, minute, second⟩ := m
    obtain rfl := Date.isDay_iff.1 hday
    simp only at hhour hminute hsecond
    have hdays : (days * 86400 + (hour * 3600 + minute * 60 + second : Nat)) / 86400 = days := by
      omega
    have hclock : ((days * 86400 + (hour * 3600 + minute * 60 + second : Nat)) % 86400).toNat =
        hour * 3600 + minute * 60 + second := by
      omega
    simp only [ofSeconds, hdays, hclock, mk.injEq, true_and]
    omega
  · rintro rfl
    refine ⟨?_, Nat.mod_lt _ (by decide), Nat.mod_lt _ (by decide), seconds / 86400,
      Date.isDay_iff.2 rfl, ?_⟩
    all_goals
      simp only [ofSeconds]
      omega

end Moment

namespace DosTime

/-- What the words of a header say. -/
def moment (t : DosTime) : Moment where
  date :=
    { year := 1980 + (t.date.toNat / 512 : Nat)
      month := t.date.toNat / 32 % 16
      day := t.date.toNat % 32 }
  hour := t.time.toNat / 2048
  minute := t.time.toNat / 32 % 64
  second := t.time.toNat % 32 * 2

/-- Months, days, hours, minutes and seconds fit the places that the words have for them. -/
theorem toNat_pack {years month day hour minute second : Nat} (hyears : years < 128)
    (hmonth : month ≤ 12) (hday : day ≤ 31) (hhour : hour < 24) (hminute : minute < 60)
    (hsecond : second < 60) :
    (pack years month day hour minute second).date.toNat = years * 512 + month * 32 + day ∧
      (pack years month day hour minute second).time.toNat =
        hour * 2048 + minute * 32 + second / 2 := by
  constructor
  · exact UInt16.toNat_ofNat_of_lt' (by simp only [UInt16.size]; omega)
  · exact UInt16.toNat_ofNat_of_lt' (by simp only [UInt16.size]; omega)

/-- No number of the packed ones gets into the place of another. -/
theorem moment_pack {years month day hour minute second : Nat} (hyears : years < 128)
    (hmonth : month ≤ 12) (hday : day ≤ 31) (hhour : hour < 24) (hminute : minute < 60)
    (hsecond : second < 60) :
    (pack years month day hour minute second).moment =
      { date := { year := 1980 + years, month, day }
        hour, minute, second := second / 2 * 2 } := by
  obtain ⟨hdate, htime⟩ := toNat_pack hyears hmonth hday hhour hminute hsecond
  simp only [moment, htime, hdate, Moment.mk.injEq, Date.mk.injEq]
  omega

/-- The words for a moment in their range say what is shown at this moment, to an even second. -/
theorem moment_ofSeconds_eq {s : Int} (h : 1980 ≤ (Moment.ofSeconds s).date.year)
    (h' : (Moment.ofSeconds s).date.year ≤ 2107) :
    (ofSeconds s).moment =
      { Moment.ofSeconds s with second := (Moment.ofSeconds s).second / 2 * 2 } := by
  have hvalid := Date.isValid_ofDays (s / 86400)
  have hday := hvalid.day_le.trans (Date.monthLength_le _ _)
  have hclock : (s % 86400).toNat < 86400 := by omega
  simp only [Moment.ofSeconds] at h h'
  have hyear : (1980 : Int) + ((Date.ofDays (s / 86400)).year - 1980).toNat =
      (Date.ofDays (s / 86400)).year := by
    omega
  rw [ofSeconds, if_neg (by omega), if_neg (by omega),
    moment_pack (by omega) hvalid.month_le hday (by omega) (by omega) (by omega), hyear]
  rfl

/-! ### The order of the words -/

/-- Hour, minute and half the second in one number, as the word of the time has them. -/
def clockWord (clock : Nat) : Nat :=
  clock / 3600 * 2048 + clock / 60 % 60 * 32 + clock % 60 / 2

/-- Both words in one number. -/
def number (t : DosTime) : Nat :=
  t.date.toNat * 65536 + t.time.toNat

/-- The number for a moment whether or not it is in range, for years that are counted from
zero. -/
def rawNumber (seconds : Int) : Int :=
  (Date.ofDays (seconds / 86400)).code * 65536 + clockWord (seconds % 86400).toNat

private theorem monotone_clockWord : Monotone clockWord := by
  refine monotone_nat_of_le_succ fun clock => ?_
  have hhour : clock / 3600 = clock / 60 / 60 ∧ (clock + 1) / 3600 = (clock + 1) / 60 / 60 := by
    omega
  simp only [clockWord, hhour]
  by_cases hmore : clock % 60 < 59
  · have hminute : (clock + 1) / 60 = clock / 60 := by omega
    rw [hminute]
    omega
  · have hminute : (clock + 1) / 60 = clock / 60 + 1 := by omega
    rw [hminute]
    omega

private theorem clockWord_le {clock : Nat} (h : clock < 86400) : clockWord clock ≤ 49021 := by
  simp only [clockWord]
  omega

private theorem rawNumber_le {s s' : Int} (h : s ≤ s') : rawNumber s ≤ rawNumber s' := by
  have hclock : clockWord (s % 86400).toNat ≤ 49021 := clockWord_le (by omega)
  rcases Int.lt_or_eq_of_le (show s / 86400 ≤ s' / 86400 by omega) with hdays | hdays
  · have hcode := Date.code_ofDays_lt hdays
    simp only [rawNumber]
    omega
  · have hle : clockWord (s % 86400).toNat ≤ clockWord (s' % 86400).toNat :=
      monotone_clockWord (by omega)
    simp only [rawNumber, hdays]
    omega

/-- The words are those of the moment, cut off at both ends of their range. -/
theorem number_ofSeconds (s : Int) :
    ((ofSeconds s).number : Int) =
      max (first.number : Int) (min (last.number : Int) (rawNumber s - 1980 * 512 * 65536)) := by
  have hvalid := Date.isValid_ofDays (s / 86400)
  have hmonth := hvalid.month_le
  have hmonth_pos := hvalid.month_pos
  have hday := hvalid.day_le.trans (Date.monthLength_le _ _)
  have hday_pos := hvalid.day_pos
  have hclock : (s % 86400).toNat < 86400 := by omega
  have hword := clockWord_le hclock
  have hfirst : first.number = 33 * 65536 := by decide
  have hlast : last.number = (127 * 512 + 415) * 65536 + 49021 := by decide
  rw [ofSeconds, hfirst, hlast]
  simp only [rawNumber, Date.code]
  split_ifs with hearly hlate
  · omega
  · omega
  · obtain ⟨hdate, htime⟩ := @toNat_pack ((Date.ofDays (s / 86400)).year - 1980).toNat _ _
      ((s % 86400).toNat / 3600) ((s % 86400).toNat / 60 % 60) ((s % 86400).toNat % 60)
      (by omega) hmonth hday (by omega) (by omega) (by omega)
    rw [number, hdate, htime]
    simp only [clockWord] at hword ⊢
    omega

/-- The words never decrease. -/
theorem date_lt_or_eq_of_le {s s' : Int} (h : s ≤ s') :
    (ofSeconds s).date < (ofSeconds s').date ∨
      (ofSeconds s).date = (ofSeconds s').date ∧ (ofSeconds s).time ≤ (ofSeconds s').time := by
  have hraw := rawNumber_le h
  have hnumber : (ofSeconds s).number ≤ (ofSeconds s').number := by
    have hs := number_ofSeconds s
    have hs' := number_ofSeconds s'
    omega
  have htime := (ofSeconds s).time.toNat_lt
  have htime' := (ofSeconds s').time.toNat_lt
  simp only [number] at hnumber
  rw [UInt16.lt_iff_toNat_lt, UInt16.le_iff_toNat_le, ← UInt16.toNat_inj]
  omega

end DosTime

/-- The words of an entry say what calendar and clock show at the time of its modification, to an
even second. They say the first moment of their range for earlier times, and the last for later
ones, and they never decrease. -/
theorem Entry.moment_dosTime {κ : Type} {e : Entry κ} {s : Int} (h : e.modified? = some s) :
    (∃! m : Moment, m.IsAt s) ∧
    (∀ m : Moment, m.IsAt s → m.date.IsValid ∧
      (m.date.year < 1980 → e.dosTime.moment =
        { date := { year := 1980, month := 1, day := 1 }, hour := 0, minute := 0, second := 0 }) ∧
      (1980 ≤ m.date.year → m.date.year ≤ 2107 →
        e.dosTime.moment = { m with second := m.second / 2 * 2 }) ∧
      (2107 < m.date.year → e.dosTime.moment =
        { date := { year := 2107, month := 12, day := 31 }
          hour := 23, minute := 59, second := 58 })) ∧
    ∀ (e' : Entry κ) (s' : Int), e'.modified? = some s' → s ≤ s' →
      e.dosTime.date < e'.dosTime.date ∨
        e.dosTime.date = e'.dosTime.date ∧ e.dosTime.time ≤ e'.dosTime.time := by
  have hwords : e.dosTime = DosTime.ofSeconds s := by rw [dosTime, h, DosTime.ofSeconds?]
  rw [hwords]
  refine ⟨⟨.ofSeconds s, Moment.isAt_iff.2 rfl, fun m hm => Moment.isAt_iff.1 hm⟩, ?_, ?_⟩
  · intro m hm
    obtain rfl := Moment.isAt_iff.1 hm
    refine ⟨Date.isValid_ofDays _, fun hearly => ?_, DosTime.moment_ofSeconds_eq, fun hlate => ?_⟩
    · have hfirst : DosTime.ofSeconds s = .first := if_pos hearly
      rw [hfirst]
      decide
    · have hlast : DosTime.ofSeconds s = .last := by
        have hnot : ¬(Moment.ofSeconds s).date.year < 1980 := by omega
        exact (if_neg hnot).trans (if_pos hlate)
      rw [hlast]
      decide
  · intro e' s' h' hle
    have hwords' : e'.dosTime = DosTime.ofSeconds s' := by rw [dosTime, h', DosTime.ofSeconds?]
    rw [hwords']
    exact DosTime.date_lt_or_eq_of_le hle

/-- A file that was modified in the last second of a leap day of a full century. -/
def sampleModified : Entry Empty :=
  { name := "a", modified? := some 951868799 }

/-- The last second of the day is stored as the one before it, and the date of one second later is
the next one. -/
theorem Entry.moment_dosTime_sampleModified :
    (Moment.mk { year := 2000, month := 2, day := 29 } 23 59 59).IsAt 951868799 ∧
      sampleModified.dosTime.moment = Moment.mk { year := 2000, month := 2, day := 29 } 23 59 58 ∧
      sampleModified.dosTime.date <
        { sampleModified with modified? := some 951868800 }.dosTime.date := by
  have hat : (Moment.mk { year := 2000, month := 2, day := 29 } 23 59 59).IsAt 951868799 :=
    Moment.isAt_iff.2 (by decide)
  obtain ⟨-, hmoment, hle⟩ := Entry.moment_dosTime (e := sampleModified) rfl
  obtain ⟨-, -, hinside, -⟩ := hmoment _ hat
  refine ⟨hat, hinside (by decide) (by decide), ?_⟩
  rcases hle { sampleModified with modified? := some 951868800 } 951868800 rfl (by decide) with
    hlt | ⟨heq, -⟩
  · exact hlt
  · exact absurd heq (by decide)

end ZipArchive
