import Mathlib.Data.Int.Init
import Mathlib.Order.Monotone.Basic
import Mathlib.Tactic.IntervalCases
import ZipArchive.Calendar

/-!
# Dates from counts of days

The Gregorian calendar goes from each date to the next: `Date.next`. Turned day by day from the
first of January 1970, forward or backward, it comes to exactly one date for each count of days,
`Date.IsDay`, and this is the date that is computed from the count: `Date.isDay_iff`. The
computation goes by years that start in March, in eras of 400 years. Its formula for the year of an
era is monotone and right on the first and the last day of each year, hence on all between them:
`Date.yearOfEra_eq`. After that `Date.ofDays_succ` has three cases: a day in the middle of a month,
the last of a month, and the last of February.
-/

namespace ZipArchive

namespace Date

/-! ### The calendar -/

/-- Leap years are those divisible by four, of full centuries only those divisible by 400. -/
def IsLeap (year : Int) : Prop :=
  year % 4 = 0 ∧ (year % 100 ≠ 0 ∨ year % 400 = 0)

instance (year : Int) : Decidable (IsLeap year) :=
  inferInstanceAs (Decidable (year % 4 = 0 ∧ (year % 100 ≠ 0 ∨ year % 400 = 0)))

/-- How many days a month has. -/
def monthLength (year : Int) (month : Nat) : Nat :=
  if month = 2 then if IsLeap year then 29 else 28
  else if month ∈ [4, 6, 9, 11] then 30
  else 31

/-- There is such a day. -/
structure IsValid (d : Date) : Prop where
  month_pos : 1 ≤ d.month
  month_le : d.month ≤ 12
  day_pos : 1 ≤ d.day
  day_le : d.day ≤ monthLength d.year d.month

/-- The date of the following day. -/
def next (d : Date) : Date :=
  if d.day < monthLength d.year d.month then { d with day := d.day + 1 }
  else if d.month < 12 then { d with month := d.month + 1, day := 1 }
  else { year := d.year + 1, month := 1, day := 1 }

/-- The date is so many days after the first of January 1970, or before it if the number is
negative. -/
inductive IsDay : Int → Date → Prop
  /-- The days are counted from here. -/
  | epoch : IsDay 0 { year := 1970, month := 1, day := 1 }
  /-- One day later comes the next date. -/
  | next {n : Int} {d : Date} (h : IsDay n d) : IsDay (n + 1) d.next
  /-- One day earlier was the date that this one is the next of. -/
  | previous {n : Int} {d : Date} (hd : d.IsValid) (h : IsDay (n + 1) d.next) : IsDay n d

theorem monthLength_le (year : Int) (month : Nat) : monthLength year month ≤ 31 := by
  unfold monthLength
  split_ifs
  all_goals decide

/-- How the calendar goes on: within a month, to the next month or to the next year. -/
theorem next_cases {d : Date} (hd : d.IsValid) :
    (d.day < monthLength d.year d.month ∧ d.next = { d with day := d.day + 1 }) ∨
    (d.day = monthLength d.year d.month ∧ d.month < 12 ∧
      d.next = { d with month := d.month + 1, day := 1 }) ∨
    (d.day = monthLength d.year d.month ∧ d.month = 12 ∧
      d.next = { year := d.year + 1, month := 1, day := 1 }) := by
  by_cases hday : d.day < monthLength d.year d.month
  · exact .inl ⟨hday, if_pos hday⟩
  have hlast : d.day = monthLength d.year d.month := Nat.le_antisymm hd.day_le (Nat.not_lt.1 hday)
  by_cases hmonth : d.month < 12
  · exact .inr (.inl ⟨hlast, hmonth, by rw [next, if_neg hday, if_pos hmonth]⟩)
  · have hdecember : d.month = 12 := Nat.le_antisymm hd.month_le (Nat.not_lt.1 hmonth)
    exact .inr (.inr ⟨hlast, hdecember, by rw [next, if_neg hday, if_neg hmonth]⟩)

/-- The next date tells the date. -/
theorem eq_of_next_eq {d d' : Date} (hd : d.IsValid) (hd' : d'.IsValid) (h : d.next = d'.next) :
    d = d' := by
  have hday := hd.day_pos
  have hday' := hd'.day_pos
  have hmonth := hd.month_pos
  have hmonth' := hd'.month_pos
  obtain ⟨year, month, day⟩ := d
  obtain ⟨year', month', day'⟩ := d'
  simp only at hday hday' hmonth hmonth'
  -- the day tells whether a month has begun, and the month whether a year has
  rcases next_cases hd with ⟨-, hnext⟩ | ⟨hlast, -, hnext⟩ | ⟨hlast, hend, hnext⟩
  all_goals
    rcases next_cases hd' with ⟨-, hnext'⟩ | ⟨hlast', -, hnext'⟩ | ⟨hlast', hend', hnext'⟩
    all_goals
      rw [hnext, hnext'] at h
      simp only [Date.mk.injEq] at h
  case inl.inl =>
    obtain ⟨rfl, rfl, hdays⟩ := h
    rw [Nat.add_right_cancel hdays]
  case inr.inl.inr.inl =>
    obtain ⟨rfl, hmonths, -⟩ := h
    obtain rfl := Nat.add_right_cancel hmonths
    exact congrArg (Date.mk year month) (hlast.trans hlast'.symm)
  case inr.inr.inr.inr =>
    obtain ⟨hyears, -, -⟩ := h
    obtain rfl : year = year' := by omega
    obtain rfl := hend.trans hend'.symm
    exact congrArg (Date.mk year month) (hlast.trans hlast'.symm)
  all_goals omega

/-! ### Years that start in March -/

/-- How many days there are from the first of March of a year to the end of the following
February. -/
def marchLength (year : Int) : Nat :=
  if IsLeap (year + 1) then 366 else 365

/-- How many days of an era come before the first of March of its year `year`. -/
def marchStart (year : Nat) : Nat :=
  365 * year + year / 4 - year / 100

/-- The year of an era that a day of the era lies in, as it is computed. -/
def yearOfEra (day : Nat) : Nat :=
  (day - day / 1460 + day / 36524 - day / 146096) / 365

private theorem marchLength_pos (year : Int) : 0 < marchLength year := by
  unfold marchLength
  split
  all_goals decide

/-- Eras have 400 years, so that the same years of them are leap years. -/
theorem marchLength_era (era year : Int) : marchLength (era * 400 + year) = marchLength year := by
  have hleap : IsLeap (era * 400 + year + 1) ↔ IsLeap (year + 1) := by
    unfold IsLeap
    omega
  simp only [marchLength, hleap]

private theorem marchStart_succ {year : Nat} (h : year < 399) :
    marchStart year + marchLength year = marchStart (year + 1) := by
  by_cases hleap : IsLeap ((year : Int) + 1)
  · rw [marchLength, if_pos hleap]
    unfold IsLeap at hleap
    simp only [marchStart]
    omega
  · rw [marchLength, if_neg hleap]
    unfold IsLeap at hleap
    simp only [marchStart]
    omega

/-- The last year of an era ends with it, since the leap day of a full century is kept once in 400
years. -/
theorem marchStart_last : marchStart 399 + marchLength 399 = 146097 := by decide

private theorem marchStart_add_lt {year day : Nat} (hyear : year < 400)
    (hday : day < marchLength year) : marchStart year + day < 146097 := by
  by_cases hend : year < 399
  · have hnext := marchStart_succ hend
    have hbound : marchStart (year + 1) ≤ 146097 := by
      simp only [marchStart]
      omega
    omega
  · obtain rfl : year = 399 := by omega
    have hlast := marchStart_last
    simp only [Nat.cast_ofNat] at hday
    omega

private theorem monotone_yearOfEra : Monotone yearOfEra := by
  refine monotone_nat_of_le_succ fun day => Nat.div_le_div_right ?_
  omega

/-- The computation is right on the first and the last day of each year. -/
theorem yearOfEra_ends : ∀ year < 400, yearOfEra (marchStart year) = year ∧
    yearOfEra (marchStart year + marchLength year - 1) = year := by
  decide +kernel

private theorem yearOfEra_eq {year day : Nat} (hyear : year < 400) (hday : day < marchLength year) :
    yearOfEra (marchStart year + day) = year := by
  obtain ⟨hfirst, hlast⟩ := yearOfEra_ends year hyear
  have hle : marchStart year + day ≤ marchStart year + marchLength year - 1 := by omega
  have hlower := monotone_yearOfEra (Nat.le_add_right (marchStart year) day)
  have hupper := monotone_yearOfEra hle
  rw [hfirst] at hlower
  rw [hlast] at hupper
  exact Nat.le_antisymm hupper hlower

/-- Each day of an era lies in one of its years. -/
theorem exists_marchStart_add_eq {day : Nat} (h : day < 146097) :
    ∃ year rest : Nat, year < 400 ∧ rest < marchLength year ∧ day = marchStart year + rest := by
  -- day by day: a day is followed by one of the same year, or by the first of the next
  induction day with
  | zero => exact ⟨0, 0, by decide, by decide, rfl⟩
  | succ day ih =>
    obtain ⟨year, rest, hyear, hrest, rfl⟩ := ih (Nat.lt_of_succ_lt h)
    by_cases hmore : rest + 1 < marchLength year
    · exact ⟨year, rest + 1, hyear, hmore, rfl⟩
    have hlast : marchStart year + rest + 1 = marchStart year + marchLength year := by omega
    by_cases hend : year < 399
    · exact ⟨year + 1, 0, by omega, marchLength_pos _, hlast.trans (marchStart_succ hend)⟩
    · obtain rfl : year = 399 := by omega
      exact absurd h (Nat.not_lt.2 (Nat.le_of_eq (hlast.trans marchStart_last).symm))

/-! ### Months of such years -/

/-- How many days of a year that starts in March come before its month `month`, counted from
zero. -/
def monthStart (month : Nat) : Nat :=
  (153 * month + 2) / 5

/-- The date of a day of a month, both counted from zero, of a year that starts in March. -/
def ofMarchMonth (year : Int) (month day : Nat) : Date :=
  let civil := if month < 10 then month + 3 else month - 9
  { year := year + if civil ≤ 2 then 1 else 0
    month := civil
    day := day + 1 }

/-- The date of a day of a year that starts in March, as it is computed. -/
def ofMarch (year : Int) (day : Nat) : Date :=
  let month := (5 * day + 2) / 153
  ofMarchMonth year month (day - monthStart month)

/-- The length of a month of a year that starts in March. February is its last. -/
def marchMonthLength (year : Int) (month : Nat) : Nat :=
  if month < 11 then monthStart (month + 1) - monthStart month
  else if IsLeap (year + 1) then 29 else 28

section Months

variable (year : Int) {month day : Nat}

private theorem monthLength_ofMarchMonth (hmonth : month < 12) (day : Nat) :
    monthLength (ofMarchMonth year month day).year (ofMarchMonth year month day).month =
      marchMonthLength year month := by
  interval_cases month
  all_goals rfl

private theorem isValid_ofMarchMonth (hmonth : month < 12)
    (hday : day < marchMonthLength year month) : (ofMarchMonth year month day).IsValid where
  month_pos := by
    simp only [ofMarchMonth]
    split
    all_goals omega
  month_le := by
    simp only [ofMarchMonth]
    split
    all_goals omega
  day_pos := Nat.succ_pos day
  day_le := by
    rw [monthLength_ofMarchMonth year hmonth]
    exact hday

private theorem next_ofMarchMonth (hmonth : month < 12)
    (hday : day + 1 < marchMonthLength year month) :
    (ofMarchMonth year month day).next = ofMarchMonth year month (day + 1) := by
  rw [next, monthLength_ofMarchMonth year hmonth]
  exact if_pos hday

private theorem next_ofMarchMonth_last (hmonth : month < 11)
    (hday : day + 1 = marchMonthLength year month) :
    (ofMarchMonth year month day).next = ofMarchMonth year (month + 1) 0 := by
  have hlast : ¬(ofMarchMonth year month day).day < marchMonthLength year month :=
    Nat.not_lt.2 (Nat.le_of_eq hday.symm)
  rw [next, monthLength_ofMarchMonth year (by omega), if_neg hlast]
  interval_cases month
  all_goals simp [ofMarchMonth]

private theorem next_ofMarchMonth_february (hday : day + 1 = marchMonthLength year 11) :
    (ofMarchMonth year 11 day).next = ofMarchMonth (year + 1) 0 0 := by
  have hlast : ¬(ofMarchMonth year 11 day).day < marchMonthLength year 11 :=
    Nat.not_lt.2 (Nat.le_of_eq hday.symm)
  rw [next, monthLength_ofMarchMonth year (by decide), if_neg hlast]
  simp [ofMarchMonth]

end Months

/-- The months make up the year. -/
theorem marchLength_eq (year : Int) :
    marchLength year = monthStart 11 + marchMonthLength year 11 := by
  simp only [marchLength, marchMonthLength, monthStart]
  split
  all_goals rfl

/-- A day of a year lies in one of its months, which the computation finds. -/
theorem exists_ofMarch_eq {year : Int} {day : Nat} (h : day < marchLength year) :
    ∃ month rest, month < 12 ∧ rest < marchMonthLength year month ∧
      day = monthStart month + rest ∧ ofMarch year day = ofMarchMonth year month rest := by
  have hstart : monthStart ((5 * day + 2) / 153) ≤ day := by
    simp only [monthStart]
    omega
  have hle : day < 366 := by
    unfold marchLength at h
    split at h
    all_goals omega
  refine ⟨(5 * day + 2) / 153, day - monthStart ((5 * day + 2) / 153), by omega, ?_, by omega, rfl⟩
  by_cases hmonth : (5 * day + 2) / 153 < 11
  · rw [marchMonthLength, if_pos hmonth]
    simp only [monthStart]
    omega
  · have hfebruary : (5 * day + 2) / 153 = 11 := by omega
    rw [marchLength_eq] at h
    rw [hfebruary] at hstart ⊢
    omega

/-- The computation finds the month and the day of a day of a year. -/
theorem ofMarch_monthStart_add (year : Int) {month rest : Nat} (hmonth : month < 12)
    (hrest : rest < marchMonthLength year month) :
    ofMarch year (monthStart month + rest) = ofMarchMonth year month rest := by
  have hdiv : (5 * (monthStart month + rest) + 2) / 153 = month := by
    have hbound : rest < monthStart (month + 1) - monthStart month := by
      unfold marchMonthLength at hrest
      split at hrest
      case isTrue => exact hrest
      case isFalse hlast =>
        obtain rfl : month = 11 := by omega
        split at hrest
        all_goals
          refine Nat.lt_of_lt_of_le hrest ?_
          decide
    simp only [monthStart] at hbound ⊢
    omega
  simp only [ofMarch, hdiv, Nat.add_sub_cancel_left]

/-- Within a year, one day more is the next date. -/
theorem next_ofMarch {year : Int} {day : Nat} (h : day + 1 < marchLength year) :
    (ofMarch year day).next = ofMarch year (day + 1) := by
  obtain ⟨month, rest, hmonth, hrest, rfl, hday⟩ := exists_ofMarch_eq (Nat.lt_of_succ_lt h)
  rw [hday, Nat.add_assoc]
  by_cases hmore : rest + 1 < marchMonthLength year month
  · rw [next_ofMarchMonth year hmonth hmore, ofMarch_monthStart_add year hmonth hmore]
  have hlast : rest + 1 = marchMonthLength year month := by omega
  by_cases hfebruary : month < 11
  · have hstart : monthStart month + (rest + 1) = monthStart (month + 1) + 0 := by
      rw [hlast, marchMonthLength, if_pos hfebruary]
      simp only [monthStart]
      omega
    have hpos : 0 < marchMonthLength year (month + 1) := by
      unfold marchMonthLength monthStart
      split_ifs
      all_goals omega
    rw [next_ofMarchMonth_last year hfebruary hlast, hstart,
      ofMarch_monthStart_add year (by omega) hpos]
  · obtain rfl : month = 11 := by omega
    rw [marchLength_eq, Nat.add_assoc, hlast] at h
    exact absurd h (Nat.lt_irrefl _)

/-- The last day of a year is followed by the first of the next. -/
theorem next_ofMarch_last {year : Int} {day : Nat} (h : day + 1 = marchLength year) :
    (ofMarch year day).next = ofMarch (year + 1) 0 := by
  have hrest : day = monthStart 11 + (marchMonthLength year 11 - 1) ∧
      0 < marchMonthLength year 11 := by
    have hpos : 0 < marchMonthLength year 11 := by
      unfold marchMonthLength
      split_ifs
      all_goals decide
    rw [marchLength_eq] at h
    omega
  rw [hrest.1, ofMarch_monthStart_add year (by decide) (Nat.sub_lt hrest.2 Nat.one_pos),
    next_ofMarchMonth_february year (Nat.sub_add_cancel hrest.2)]
  rfl

private theorem isValid_ofMarch {year : Int} {day : Nat} (h : day < marchLength year) :
    (ofMarch year day).IsValid := by
  obtain ⟨month, rest, hmonth, hrest, -, hday⟩ := exists_ofMarch_eq h
  rw [hday]
  exact isValid_ofMarchMonth year hmonth hrest

/-! ### The computation -/

/-- The number of days to a day of a year of an era. -/
def eraDay (era : Int) (year day : Nat) : Int :=
  era * 146097 + (marchStart year + day : Nat) - 719468

private theorem exists_eraDay_eq (n : Int) :
    ∃ era, ∃ year day : Nat, year < 400 ∧ day < marchLength year ∧ n = eraDay era year day := by
  have hlt : ((n + 719468) % 146097).toNat < 146097 := by omega
  obtain ⟨year, day, hyear, hday, heq⟩ := exists_marchStart_add_eq hlt
  refine ⟨(n + 719468) / 146097, year, day, hyear, hday, ?_⟩
  rw [eraDay, ← heq]
  omega

private theorem ofDays_eraDay (era : Int) {year day : Nat} (hyear : year < 400)
    (hday : day < marchLength year) :
    ofDays (eraDay era year day) = ofMarch (era * 400 + year) day := by
  have hlt := marchStart_add_lt hyear hday
  have hdiv : (eraDay era year day + 719468) / 146097 = era := by
    simp only [eraDay]
    omega
  have hmod : ((eraDay era year day + 719468) % 146097).toNat = marchStart year + day := by
    simp only [eraDay]
    omega
  have hyearOfEra : (marchStart year + day - (marchStart year + day) / 1460 +
      (marchStart year + day) / 36524 - (marchStart year + day) / 146096) / 365 = year :=
    yearOfEra_eq hyear hday
  have hrest : marchStart year + day - (365 * year + year / 4 - year / 100) = day :=
    Nat.add_sub_cancel_left ..
  simp only [ofDays, hdiv, hmod, hyearOfEra, hrest, ofMarch, ofMarchMonth, monthStart]

theorem isValid_ofDays (n : Int) : (ofDays n).IsValid := by
  obtain ⟨era, year, day, hyear, hday, rfl⟩ := exists_eraDay_eq n
  rw [ofDays_eraDay era hyear hday]
  exact isValid_ofMarch (by rwa [marchLength_era])

/-- The computation goes by the calendar. -/
theorem ofDays_succ (n : Int) : ofDays (n + 1) = (ofDays n).next := by
  obtain ⟨era, year, day, hyear, hday, rfl⟩ := exists_eraDay_eq n
  have hlength := marchLength_era era year
  rw [ofDays_eraDay era hyear hday]
  by_cases hmore : day + 1 < marchLength year
  · have hsucc : eraDay era year day + 1 = eraDay era year (day + 1) := by
      simp only [eraDay]
      omega
    rw [hsucc, ofDays_eraDay era hyear hmore, next_ofMarch (by rwa [hlength])]
  have hlast : day + 1 = marchLength year := by omega
  rw [next_ofMarch_last (by rwa [hlength])]
  by_cases hend : year < 399
  · have hsucc : eraDay era year day + 1 = eraDay era (year + 1) 0 := by
      simp only [eraDay, ← marchStart_succ hend]
      omega
    have hnext : era * 400 + ((year + 1 : Nat) : Int) = era * 400 + year + 1 := by omega
    rw [hsucc, ofDays_eraDay era (by omega) (marchLength_pos _), hnext]
  · obtain rfl : year = 399 := by omega
    have hsucc : eraDay era 399 day + 1 = eraDay (era + 1) 0 0 := by
      have hera := marchStart_last
      have hzero : marchStart 0 = 0 := rfl
      simp only [eraDay, hzero]
      simp only [Nat.cast_ofNat] at hlast
      omega
    have hnext : (era + 1) * 400 + ((0 : Nat) : Int) = era * 400 + ((399 : Nat) : Int) + 1 := by
      omega
    rw [hsucc, ofDays_eraDay (era + 1) (by decide) (marchLength_pos _), hnext]

/-- There is one date for each number of days, and the computation finds it. -/
theorem isDay_iff {n : Int} {d : Date} : IsDay n d ↔ d = ofDays n := by
  constructor
  · intro h
    induction h with
    | epoch => rfl
    | next _ ih => rw [ih, ofDays_succ]
    | previous hd _ ih => exact eq_of_next_eq hd (isValid_ofDays _) (ih.trans (ofDays_succ _))
  · rintro rfl
    induction n with
    | zero => exact .epoch
    | succ n ih =>
      rw [ofDays_succ]
      exact .next ih
    | pred n ih =>
      refine .previous (isValid_ofDays _) ?_
      rw [← ofDays_succ]
      exact (Int.sub_add_cancel (-(n : Int)) 1).symm ▸ ih

/-! ### The order of dates -/

/-- A number that tells year, month and day. -/
def code (d : Date) : Int :=
  d.year * 512 + (d.month * 32 + d.day : Nat)

private theorem code_lt_code_next {d : Date} (hd : d.IsValid) : d.code < d.next.code := by
  have hday := hd.day_le.trans (monthLength_le d.year d.month)
  rcases next_cases hd with ⟨-, hnext⟩ | ⟨-, -, hnext⟩ | ⟨-, hend, hnext⟩
  all_goals
    rw [hnext]
    simp only [code]
    omega

theorem code_ofDays_lt {n n' : Int} (h : n < n') : (ofDays n).code < (ofDays n').code := by
  have hmono : StrictMono fun n => (ofDays n).code := by
    refine strictMono_int_of_lt_succ fun n => ?_
    rw [ofDays_succ]
    exact code_lt_code_next (isValid_ofDays n)
  exact hmono h

end Date

end ZipArchive
