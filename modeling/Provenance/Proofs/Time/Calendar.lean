import Provenance.Time.Instant

/-!
# Days and dates

Day numbers and dates are two ways to write down the days of the calendar: each day number has a
date, each date of the calendar has a day number, and the day after a date has the next number.  So
an instant can be read off a clock and a calendar in one way only.

Both ways between them go through eras of four hundred years, which begin in March.  The day of an
era tells its year by dividing by 365 once the leap days before it are taken away, and there are as
many of these as blocks of 1460 days are complete, less the whole centuries, and one more on the
very last day.  The day of a year that begins in March tells its month, because the months from
March on come in fives of 153 days.

## Main definitions

* `Date.IsValid`, `Date.next` — the dates of the calendar, and the date after one.
* `Instant.ReadsAs` — what calendar and clock show at an instant.

## Main results

* `dateOfDays_daysOfDate`, `isValid_dateOfDays` — **dates and day numbers say the same.**
* `Date.IsValid.next`, `dateOfDays_succ`, `weekday_succ` — the date and the day of the week go on
  day by day.
* `Instant.readsAs_iff` — **the fields of an instant are what calendar and clock show.**
-/

namespace Provenance

namespace Time

/-! ### Dates -/

namespace Date

/-- A date that the calendar has. -/
structure IsValid (d : Date) : Prop where
  month_pos : 1 ≤ d.month
  month_le : d.month ≤ 12
  day_pos : 1 ≤ d.day
  day_le : d.day ≤ daysInMonth d.year d.month

/-- The date after a date. -/
def next (d : Date) : Date :=
  if d.day < daysInMonth d.year d.month then ⟨d.year, d.month, d.day + 1⟩
  else if d.month < 12 then ⟨d.year, d.month + 1, 1⟩
  else ⟨d.year + 1, 1, 1⟩

/-- The year of a date, where years begin in March. -/
def marchYear (d : Date) : Int := if d.month ≤ 2 then d.year - 1 else d.year

/-- The month of a date, where March is month zero. -/
def marchMonth (d : Date) : Nat := if d.month ≤ 2 then d.month + 9 else d.month - 3

/-- The days before a month in a year that begins in March. -/
def daysBefore (marchMonth : Nat) : Nat := (153 * marchMonth + 2) / 5

/-- The day of a year that begins in March, counted from zero. -/
def marchDay (d : Date) : Nat := daysBefore d.marchMonth + d.day - 1

end Date

open Date (daysBefore)

theorem isLeapYear_iff {year : Int} :
    isLeapYear year = true ↔ year % 4 = 0 ∧ (year % 100 ≠ 0 ∨ year % 400 = 0) := by
  simp [isLeapYear]

theorem daysInMonth_two (year : Int) :
    daysInMonth year 2 = if isLeapYear year then 29 else 28 := rfl

/-- All months but February end where the next one begins. -/
theorem daysBefore_add_daysInMonth (year : Int) {d : Date} (hpos : 1 ≤ d.month) (hle : d.month ≤ 12)
    (hne : d.month ≠ 2) :
    daysBefore d.marchMonth + daysInMonth year d.month = daysBefore (d.marchMonth + 1) := by
  obtain ⟨_, m, _⟩ := d
  obtain rfl | rfl | rfl | rfl | rfl | rfl | rfl | rfl | rfl | rfl | rfl : m = 1 ∨ m = 3 ∨ m = 4 ∨
      m = 5 ∨ m = 6 ∨ m = 7 ∨ m = 8 ∨ m = 9 ∨ m = 10 ∨ m = 11 ∨ m = 12 := by
    simp only at hpos hle hne
    omega
  all_goals simp [Date.marchMonth, daysBefore, daysInMonth]

namespace Date.IsValid

variable {d : Date}

/-- The day of the year lies in the month. -/
theorem marchDay_bounds (h : d.IsValid) : d.marchMonth ≤ 11 ∧ daysBefore d.marchMonth ≤ d.marchDay ∧
    d.marchDay < daysBefore (d.marchMonth + 1) := by
  obtain ⟨hpos, hle, hday, hlength⟩ := h
  refine ⟨?_, ?_, ?_⟩
  · unfold marchMonth
    split <;> omega
  · unfold marchDay
    omega
  · by_cases hfebruary : d.month = 2
    · have hmonth : d.marchMonth = 11 := by simp [marchMonth, hfebruary]
      have hshort : daysInMonth d.year d.month ≤ 29 := by
        rw [hfebruary, daysInMonth_two]
        split <;> decide
      simp only [marchDay, hmonth, daysBefore]
      omega
    · have := daysBefore_add_daysInMonth d.year hpos hle hfebruary
      unfold marchDay
      omega

/-- A year that begins in March has at most 366 days, and that many only if the February at its end
has a leap day. -/
theorem marchDay_le (h : d.IsValid) :
    d.marchDay ≤ 365 ∧ (d.marchDay = 365 → isLeapYear (d.marchYear + 1) = true) := by
  obtain ⟨hmonth, -, hlt⟩ := h.marchDay_bounds
  by_cases hfebruary : d.month = 2
  · have hlast : d.marchMonth = 11 := by simp [marchMonth, hfebruary]
    have hyear : d.marchYear + 1 = d.year := by simp [marchYear, hfebruary]
    have hlength := h.day_le
    rw [hfebruary, daysInMonth_two] at hlength
    have hday : d.marchDay = 337 + d.day - 1 := by rw [marchDay, hlast]; rfl
    rw [hday, hyear]
    split at hlength
    · next hleap => exact ⟨by omega, fun _ => hleap⟩
    · omega
  · -- before February there are 337 days
    have hbefore : d.marchMonth ≤ 10 := by
      have := h.month_pos
      have := h.month_le
      unfold marchMonth
      split <;> omega
    simp only [daysBefore] at hlt
    omega

end Date.IsValid

/-! ### Years of an era -/

/-- The days of an era before one of its years. -/
def daysBeforeYear (yearOfEra : Nat) : Nat := yearOfEra * 365 + yearOfEra / 4 - yearOfEra / 100

/-- The year in which a day of an era lies. -/
def yearOfDay (dayOfEra : Nat) : Nat :=
  (dayOfEra - dayOfEra / 1460 + dayOfEra / 36524 - dayOfEra / 146096) / 365

/-- That a day of a year of an era is there: the last one is a leap day. -/
def IsDayOfYear (yearOfEra day : Nat) : Prop :=
  day ≤ 365 ∧ (day = 365 → yearOfEra % 4 = 3 ∧ yearOfEra % 100 ≠ 99 ∨ yearOfEra = 399)

/-- **A day of an era lies in the year from which it is counted.** -/
theorem yearOfDay_add {y day : Nat} (hy : y < 400) (h : IsDayOfYear y day) :
    yearOfDay (daysBeforeYear y + day) = y := by
  obtain ⟨hday, hleap⟩ := h
  obtain ⟨n, hn⟩ : ∃ n, n = daysBeforeYear y + day := ⟨_, rfl⟩
  rw [← hn, yearOfDay]
  have hsum : n + y / 100 = y * 365 + y / 4 + day := by
    unfold daysBeforeYear at hn
    omega
  -- centuries are complete but for the last day of the era
  have hcenturies : n / 36524 - n / 146096 = y / 100 := by
    by_cases hlast : y = 399 ∧ day = 365
    · obtain ⟨rfl, rfl⟩ := hlast
      omega
    · have hlt : n < 36524 * (y / 100 + 1) := by omega
      have hge : 36524 * (y / 100) ≤ n := by omega
      omega
  have hfew : n / 1460 ≤ y / 4 + day := by omega
  have hmany : y / 4 + day ≤ n / 1460 + 364 := by omega
  have hfull : n - n / 1460 + n / 36524 - n / 146096 = y * 365 + (y / 4 + day - n / 1460) := by
    omega
  omega

/-- **A day of an era is a day of its year.** -/
theorem isDayOfYear_yearOfDay {n : Nat} (hn : n < 146097) :
    yearOfDay n < 400 ∧ ∃ day, IsDayOfYear (yearOfDay n) day ∧
      n = daysBeforeYear (yearOfDay n) + day := by
  obtain ⟨y, hy⟩ : ∃ y, y = yearOfDay n := ⟨_, rfl⟩
  rw [← hy]
  unfold yearOfDay at hy
  have hlow : 365 * y ≤ n - n / 1460 + n / 36524 - n / 146096 := by omega
  have hhigh : n - n / 1460 + n / 36524 - n / 146096 < 365 * y + 365 := by omega
  have hlt : y < 400 := by omega
  clear hy
  by_cases hlast : n = 146096
  · subst hlast
    obtain rfl : y = 399 := by omega
    exact ⟨hlt, 365, ⟨Nat.le_refl _, fun _ => .inr rfl⟩, rfl⟩
  · have hera : n / 146096 = 0 := by omega
    have hcentury : y / 100 = n / 36524 := by omega
    rw [hera, ← hcentury] at hlow hhigh
    have hfours : y / 4 = n / 1460 ∨ y / 4 + 1 = n / 1460 := by omega
    refine ⟨hlt, n - daysBeforeYear y, ⟨?_, ?_⟩, ?_⟩ <;> unfold daysBeforeYear <;> omega

/-! ### Dates and day numbers -/

/-- The day number of a date, by the year of its era and the day of that year. -/
theorem daysOfDate_eq {d : Date} (h : 1 ≤ d.day) :
    daysOfDate d = d.marchYear / 400 * daysPerEra +
      (daysBeforeYear (d.marchYear % 400).toNat + d.marchDay : Nat) - epochShift := by
  have hyear : (if d.month ≤ 2 then d.year - 1 else d.year) = d.marchYear := rfl
  have hmonth : (if d.month ≤ 2 then d.month + 9 else d.month - 3) = d.marchMonth := rfl
  simp only [daysOfDate, hyear, hmonth, daysBeforeYear, Date.marchDay, daysBefore]
  omega

/-- The date of a day of a year, of an era of years that begin in March. -/
def Date.ofMarch (era : Int) (yearOfEra day : Nat) : Date :=
  let m := (5 * day + 2) / 153
  let month := if m < 10 then m + 3 else m - 9
  ⟨if month ≤ 2 then era * 400 + yearOfEra + 1 else era * 400 + yearOfEra, month,
    day - daysBefore m + 1⟩

section March

variable (era : Int) {y day : Nat}

theorem dateOfDays_eq (hy : y < 400) (h : IsDayOfYear y day) :
    dateOfDays (era * daysPerEra + (daysBeforeYear y + day : Nat) - epochShift) =
      .ofMarch era y day := by
  have hinside : daysBeforeYear y + day < 146097 := by
    obtain ⟨hday, hleap⟩ := h
    unfold daysBeforeYear
    omega
  obtain ⟨n, hn⟩ : ∃ n, n = daysBeforeYear y + day := ⟨_, rfl⟩
  have hshift : era * daysPerEra + (n : Int) - epochShift + epochShift = era * daysPerEra + n := by
    omega
  have hera : (era * daysPerEra + (n : Int)) / daysPerEra = era := by
    unfold daysPerEra
    omega
  have hrest : ((era * daysPerEra + (n : Int)) % daysPerEra).toNat = n := by
    unfold daysPerEra
    omega
  have hyear : (n - n / 1460 + n / 36524 - n / 146096) / 365 = y := hn ▸ yearOfDay_add hy h
  have hday : n - (365 * y + y / 4 - y / 100) = day := by
    unfold daysBeforeYear at hn
    omega
  rw [← hn]
  simp only [dateOfDays, hshift, hera, hrest, hyear, hday, Date.ofMarch, daysBefore]

theorem marchMonth_ofMarch (h : day ≤ 365) :
    (Date.ofMarch era y day).marchMonth = (5 * day + 2) / 153 := by
  have hmonth : (Date.ofMarch era y day).month =
      if (5 * day + 2) / 153 < 10 then (5 * day + 2) / 153 + 3 else (5 * day + 2) / 153 - 9 := rfl
  rw [Date.marchMonth, hmonth]
  split <;> split <;> omega

theorem marchYear_ofMarch : (Date.ofMarch era y day).marchYear = era * 400 + y := by
  unfold Date.marchYear
  split
  · next hle =>
    have hyear : (Date.ofMarch era y day).year = era * 400 + y + 1 := if_pos hle
    omega
  · next hle => exact if_neg hle

theorem marchDay_ofMarch (h : day ≤ 365) : (Date.ofMarch era y day).marchDay = day := by
  have hbefore : daysBefore ((5 * day + 2) / 153) ≤ day := by
    unfold daysBefore
    omega
  rw [Date.marchDay, marchMonth_ofMarch era h]
  show daysBefore _ + (day - daysBefore _ + 1) - 1 = day
  omega

theorem isValid_ofMarch (h : IsDayOfYear y day) :
    (Date.ofMarch era y day).IsValid := by
  obtain ⟨hday, hleap⟩ := h
  have hmarch : (Date.ofMarch era y day).marchMonth = (5 * day + 2) / 153 :=
    marchMonth_ofMarch era hday
  have hcount : (Date.ofMarch era y day).marchDay = day := marchDay_ofMarch era hday
  have hyear : (Date.ofMarch era y day).marchYear = era * 400 + y := marchYear_ofMarch era
  obtain ⟨d, hd⟩ : ∃ d, d = Date.ofMarch era y day := ⟨_, rfl⟩
  rw [← hd] at hmarch hcount hyear ⊢
  have hpos : 1 ≤ d.month ∧ d.month ≤ 12 := by
    rw [hd]
    unfold Date.ofMarch
    simp only
    split <;> omega
  have hfirst : 1 ≤ d.day := hd ▸ Nat.le_add_left 1 _
  refine ⟨hpos.1, hpos.2, hfirst, ?_⟩
  unfold Date.marchDay at hcount
  by_cases hfebruary : d.month = 2
  · -- the last month of the year, which is complete with the leap day
    have hlast : d.marchMonth = 11 := by simp [Date.marchMonth, hfebruary]
    have hsame : d.marchYear = d.year - 1 := by simp [Date.marchYear, hfebruary]
    rw [hlast] at hcount
    unfold daysBefore at hcount
    rw [hfebruary, daysInMonth_two]
    split
    · omega
    · next hnot =>
      rw [isLeapYear_iff] at hnot
      omega
  · have hend := daysBefore_add_daysInMonth d.year hpos.1 hpos.2 hfebruary
    rw [hmarch] at hend hcount
    unfold daysBefore at hend hcount
    omega

end March

namespace Date.IsValid

variable {d : Date}

theorem isDayOfYear (h : d.IsValid) : IsDayOfYear (d.marchYear % 400).toNat d.marchDay := by
  obtain ⟨hday, hlast⟩ := h.marchDay_le
  refine ⟨hday, fun heq => ?_⟩
  have hleap := isLeapYear_iff.1 (hlast heq)
  omega

/-- A date is made of its year and the day of that year. -/
theorem ofMarch_eq (h : d.IsValid) :
    Date.ofMarch (d.marchYear / 400) (d.marchYear % 400).toNat d.marchDay = d := by
  obtain ⟨hmonth, hlow, hhigh⟩ := h.marchDay_bounds
  have hindex : (5 * d.marchDay + 2) / 153 = d.marchMonth := by
    unfold daysBefore at hlow hhigh
    omega
  have hpos := h.month_pos
  have hle := h.month_le
  have hback : (if d.marchMonth < 10 then d.marchMonth + 3 else d.marchMonth - 9) = d.month := by
    unfold marchMonth
    split <;> split <;> omega
  have hday : d.marchDay - daysBefore d.marchMonth + 1 = d.day := by
    have := h.day_pos
    unfold marchDay
    omega
  have hyear : (if d.month ≤ 2 then
      d.marchYear / 400 * 400 + ((d.marchYear % 400).toNat : Int) + 1
      else d.marchYear / 400 * 400 + ((d.marchYear % 400).toNat : Int)) = d.year := by
    unfold marchYear
    split <;> omega
  simp only [Date.ofMarch, hindex, hback, hday, hyear]

end Date.IsValid

/-- **A date is the date of its day number.** -/
theorem dateOfDays_daysOfDate {d : Date} (h : d.IsValid) : dateOfDays (daysOfDate d) = d := by
  rw [daysOfDate_eq h.day_pos, dateOfDays_eq _ (by omega) h.isDayOfYear, h.ofMarch_eq]

/-- **Each day has a date**, of which it is the day number. -/
theorem isValid_dateOfDays (n : Int) : (dateOfDays n).IsValid ∧ daysOfDate (dateOfDays n) = n := by
  obtain ⟨era, hera⟩ : ∃ era, era = (n + epochShift) / daysPerEra := ⟨_, rfl⟩
  obtain ⟨i, hi⟩ : ∃ i, i = ((n + epochShift) % daysPerEra).toNat := ⟨_, rfl⟩
  have hn : n = era * daysPerEra + i - epochShift := by
    unfold daysPerEra at *
    omega
  have hinside : i < 146097 := by
    unfold daysPerEra at hi
    omega
  obtain ⟨hy, day, hday, hcount⟩ := isDayOfYear_yearOfDay hinside
  have hdate := dateOfDays_eq era hy hday
  rw [← hcount, ← hn] at hdate
  have hvalid := isValid_ofMarch era hday
  refine ⟨hdate ▸ hvalid, ?_⟩
  have heras : (era * 400 + (yearOfDay i : Int)) / 400 = era := by omega
  have hrest : ((era * 400 + (yearOfDay i : Int)) % 400).toNat = yearOfDay i := by omega
  rw [hdate, daysOfDate_eq hvalid.day_pos, marchYear_ofMarch, marchDay_ofMarch era hday.1, heras,
    hrest, ← hcount, hn]

/-! ### Day by day -/

/-- Inside of a year that begins in March, day numbers go on with the days of the year. -/
theorem daysOfDate_succ_of_march {d e : Date} (hd : 1 ≤ d.day) (he : 1 ≤ e.day)
    (hyear : e.marchYear = d.marchYear) (hday : e.marchDay = d.marchDay + 1) :
    daysOfDate e = daysOfDate d + 1 := by
  rw [daysOfDate_eq hd, daysOfDate_eq he, hyear, hday]
  omega

/-- Such a year ends with February, after 365 or 366 days. -/
theorem daysOfDate_march (year : Int) :
    daysOfDate ⟨year, 3, 1⟩ = daysOfDate ⟨year, 2, daysInMonth year 2⟩ + 1 := by
  have hfebruary : daysInMonth year 2 = if isLeapYear year then 29 else 28 := rfl
  simp only [daysOfDate, daysPerEra, hfebruary]
  by_cases hleap : isLeapYear year = true
  · have hyear := isLeapYear_iff.1 hleap
    simp [hleap]
    omega
  · have hyear := mt isLeapYear_iff.2 hleap
    simp [hleap]
    omega

/-- **The day after a date has the next number.** -/
theorem Date.IsValid.next {d : Date} (h : d.IsValid) :
    d.next.IsValid ∧ daysOfDate d.next = daysOfDate d + 1 := by
  obtain ⟨hpos, hle, hday, hlength⟩ := h
  unfold Date.next
  by_cases hinside : d.day < daysInMonth d.year d.month
  · rw [if_pos hinside]
    refine ⟨⟨hpos, hle, Nat.le_add_left 1 _, hinside⟩,
      daysOfDate_succ_of_march hday (Nat.le_add_left 1 _) rfl ?_⟩
    show daysBefore d.marchMonth + (d.day + 1) - 1 = daysBefore d.marchMonth + d.day - 1 + 1
    omega
  · have hlast : d.day = daysInMonth d.year d.month := by omega
    have hfirst (year : Int) (month : Nat) : 1 ≤ daysInMonth year month := by
      unfold daysInMonth
      split
      · split <;> decide
      · split <;> decide
    -- the first day of the next month follows the last day of this one
    have hstep {e : Date} (hfebruary : d.month ≠ 2) (hone : e.day = 1)
        (hyear : e.marchYear = d.marchYear) (hmonth : e.marchMonth = d.marchMonth + 1) :
        daysOfDate e = daysOfDate d + 1 := by
      have hend := daysBefore_add_daysInMonth d.year hpos hle hfebruary
      refine daysOfDate_succ_of_march hday (Nat.le_of_eq hone.symm) hyear ?_
      unfold Date.marchDay
      rw [hone, hmonth, hlast]
      omega
    rw [if_neg hinside]
    by_cases htwelve : d.month < 12
    · rw [if_pos htwelve]
      refine ⟨⟨Nat.le_add_left 1 _, htwelve, Nat.le_refl 1, hfirst _ _⟩, ?_⟩
      by_cases hfebruary : d.month = 2
      · have hd : d = ⟨d.year, 2, daysInMonth d.year 2⟩ := by
          obtain ⟨year, month, day⟩ := d
          obtain rfl : month = 2 := hfebruary
          obtain rfl : day = daysInMonth year 2 := hlast
          rfl
        rw [hd]
        exact daysOfDate_march d.year
      · refine hstep hfebruary rfl ?_ ?_
        · unfold Date.marchYear
          simp only
          split <;> split <;> omega
        · unfold Date.marchMonth
          simp only
          split <;> split <;> omega
    · rw [if_neg htwelve]
      have hmonth : d.month = 12 := by omega
      refine ⟨⟨Nat.le_refl 1, Nat.le_add_left 1 11, Nat.le_refl 1, hfirst _ _⟩,
        hstep (by omega) rfl ?_ ?_⟩
      · simp [Date.marchYear, hmonth]
      · simp [Date.marchMonth, hmonth]

/-- **Dates go on day by day**, from the first of January 1970 on in both directions. -/
theorem dateOfDays_succ (n : Int) : dateOfDays (n + 1) = (dateOfDays n).next := by
  obtain ⟨hvalid, hcount⟩ := isValid_dateOfDays n
  obtain ⟨hnext, hone⟩ := hvalid.next
  rw [← dateOfDays_daysOfDate hnext, hone, hcount]

example : dateOfDays 0 = ⟨1970, 1, 1⟩ := by decide

/-- **Days of the week go on day by day**, with Monday after Sunday. -/
theorem weekday_succ (n : Int) : weekday (n + 1) = weekday n % 7 + 1 := by
  unfold weekday
  omega

end Time

open Time

/-! ### Clock and calendar -/

namespace Instant

/-- **What calendar and clock show at an instant**, in universal time. -/
structure ReadsAs (t : Instant) (date : Date) (hour minute second : Nat) : Prop where
  date_isValid : date.IsValid
  hour_lt : hour < 24
  minute_lt : minute < 60
  second_lt : second < 60
  second_eq : t.second = ((daysOfDate date * 24 + hour) * 60 + minute) * 60 + second

/-- **The fields of an instant are what calendar and clock show**, and nothing else is. -/
theorem readsAs_iff {t : Instant} {date : Date} {hour minute second : Nat} :
    t.ReadsAs date hour minute second ↔
      t.fields = ⟨date, hour, minute, second, weekday (daysOfDate date)⟩ := by
  constructor
  · rintro ⟨hdate, hhour, hminute, hsecond, heq⟩
    have hday : t.day = daysOfDate date := by
      unfold day secondsPerDay
      omega
    have hrest : t.secondOfDay = (hour * 60 + minute) * 60 + second := by
      unfold secondOfDay secondsPerDay
      omega
    have hhour' : ((hour * 60 + minute) * 60 + second) / 3600 = hour := by omega
    have hminute' : ((hour * 60 + minute) * 60 + second) / 60 % 60 = minute := by omega
    have hsecond' : ((hour * 60 + minute) * 60 + second) % 60 = second := by omega
    simp only [fields, hday, hrest, dateOfDays_daysOfDate hdate, hhour', hminute', hsecond']
  · intro h
    obtain ⟨hvalid, hcount⟩ := isValid_dateOfDays t.day
    simp only [fields, Fields.mk.injEq] at h
    obtain ⟨rfl, rfl, rfl, rfl, -⟩ := h
    refine ⟨hvalid, ?_, by omega, by omega, ?_⟩
    · unfold secondOfDay secondsPerDay
      omega
    · rw [hcount]
      unfold day secondOfDay secondsPerDay
      omega

end Instant

end Provenance
