import IsolatedSite.Calendar.Moment

namespace IsolatedSite

namespace Date

def isLeap (year : Int) : Bool := decide (year % 4 = 0 ∧ (year % 100 ≠ 0 ∨ year % 400 = 0))

def yearDays (leap : Bool) : Nat := if leap then 366 else 365

def monthDays (leap : Bool) : Nat → Nat
  | 2 => if leap then 29 else 28
  | 4 | 6 | 9 | 11 => 30
  | _ => 31

def daysBeforeMonth (leap : Bool) : Nat → Nat
  | 0 | 1 => 0
  | month + 2 => daysBeforeMonth leap (month + 1) + monthDays leap (month + 1)

def daysOfYears (years : Nat → Int) : Nat → Nat
  | 0 => 0
  | n + 1 => daysOfYears years n + yearDays (isLeap (years n))

def daysBeforeYear : Int → Int
  | .ofNat n => daysOfYears (fun k => k) n
  | .negSucc n => -daysOfYears (fun k => -(k + 1)) (n + 1)

/-- A day that there is. -/
structure IsDay (d : Date) : Prop where
  month_pos : 1 ≤ d.month
  month_le : d.month ≤ 12
  day_pos : 1 ≤ d.day
  day_le : d.day ≤ monthDays (isLeap d.year) d.month

def count (d : Date) : Int :=
  daysBeforeYear d.year + daysBeforeMonth (isLeap d.year) d.month + d.day - 1

def dayNumber (d : Date) : Int := d.count - (⟨1970, 1, 1⟩ : Date).count

/-- A year has one more day if it is a fourth one, unless it is a hundredth one, unless that is a four
hundredth one. -/
theorem yearDays_eq (year : Int) : (yearDays (isLeap year) : Int) =
    365 + ((year + 4) / 4 - (year + 3) / 4) - ((year + 100) / 100 - (year + 99) / 100) +
      ((year + 400) / 400 - (year + 399) / 400) := by
  simp only [yearDays, isLeap, decide_eq_true_eq]
  split <;> omega

theorem daysBeforeYear_eq (year : Int) :
    daysBeforeYear year = 365 * year + (year + 3) / 4 - (year + 99) / 100 + (year + 399) / 400 := by
  cases year with
  | ofNat n =>
      induction n with
      | zero => rfl
      | succ n ih =>
          have hstep : daysBeforeYear (.ofNat (n + 1)) =
              daysBeforeYear (.ofNat n) + yearDays (isLeap n) := by
            simp only [daysBeforeYear, daysOfYears, Int.natCast_add]
          rw [hstep, ih, yearDays_eq]
          simp only [Int.ofNat_eq_natCast]
          omega
  | negSucc n =>
      induction n with
      | zero => decide
      | succ n ih =>
          have hstep : daysBeforeYear (.negSucc (n + 1)) =
              daysBeforeYear (.negSucc n) - yearDays (isLeap (-((n + 1 : Nat) + 1 : Int))) := by
            rw [daysBeforeYear, daysBeforeYear, daysOfYears]
            omega
          rw [hstep, ih, yearDays_eq]
          simp only [Int.negSucc_eq]
          omega

theorem daysBeforeYear_succ (year : Int) :
    daysBeforeYear (year + 1) = daysBeforeYear year + yearDays (isLeap year) := by
  rw [daysBeforeYear_eq, daysBeforeYear_eq, yearDays_eq]
  omega

def daysFromMarch (months : Nat) : Nat := (153 * months + 2) / 5

/-- The months from March on. Those up to December belong to the year, the two others to the next. -/
theorem daysFromMarch_eq : ∀ leap : Bool, ∀ months < 12,
    (months < 10 →
      daysBeforeMonth leap (months + 3) + 306 = yearDays leap + daysFromMarch months ∧
      daysFromMarch months + monthDays leap (months + 3) = daysFromMarch (months + 1)) ∧
    (10 ≤ months →
      daysBeforeMonth leap (months - 9) + 306 = daysFromMarch months ∧
      daysFromMarch months + monthDays leap (months - 9) =
        min (daysFromMarch (months + 1)) (yearDays leap)) := by
  decide

def ofMarch (year : Int) (day : Nat) : Date :=
  let months := (5 * day + 2) / 153
  if months < 10 then ⟨year, months + 3, day - daysFromMarch months + 1⟩
  else ⟨year + 1, months - 9, day - daysFromMarch months + 1⟩

theorem daysFromMarch_le (day : Nat) :
    daysFromMarch ((5 * day + 2) / 153) ≤ day ∧ day < daysFromMarch ((5 * day + 2) / 153 + 1) := by
  rw [daysFromMarch, daysFromMarch]
  omega

theorem isDay_ofMarch {year : Int} {day : Nat} (h : day < yearDays (isLeap (year + 1))) :
    (ofMarch year day).IsDay := by
  have hlong : yearDays (isLeap (year + 1)) ≤ 366 := by
    rw [yearDays]
    split <;> omega
  have hmonths : (5 * day + 2) / 153 < 12 := by omega
  obtain ⟨hfirst, hnext⟩ := daysFromMarch_le day
  simp only [ofMarch]
  split
  · next hlt =>
      have hdays := ((daysFromMarch_eq (isLeap year) _ hmonths).1 hlt).2
      constructor <;> dsimp only <;> omega
  · next hge =>
      have hdays := ((daysFromMarch_eq (isLeap (year + 1)) _ hmonths).2 (by omega)).2
      constructor <;> dsimp only <;> omega

theorem count_ofMarch (year : Int) {day : Nat} (h : day < 366) :
    (ofMarch year day).count = daysBeforeYear (year + 1) - 306 + day := by
  have hmonths : (5 * day + 2) / 153 < 12 := by omega
  have hfirst := (daysFromMarch_le day).1
  simp only [ofMarch]
  split
  · next hlt =>
      have hdays := ((daysFromMarch_eq (isLeap year) _ hmonths).1 hlt).1
      rw [count, daysBeforeYear_succ]
      dsimp only
      omega
  · next hge =>
      have hdays := ((daysFromMarch_eq (isLeap (year + 1)) _ hmonths).2 (by omega)).1
      rw [count]
      dsimp only
      omega

/-- A day of four hundred years, by the century, the four years and the year that it lies in. The last
day is the only one that a century or a year has more than the others. -/
structure EraDay where
  century : Nat
  olympiad : Nat
  year : Nat
  day : Nat
  century_le : century ≤ 3
  olympiad_le : olympiad ≤ 24
  year_le : year ≤ 3
  day_le : day ≤ 365
  leap : day = 365 → year = 3 ∧ (olympiad = 24 → century = 3)

namespace EraDay

def years (e : EraDay) : Nat := 100 * e.century + 4 * e.olympiad + e.year

def days (e : EraDay) : Nat := 36524 * e.century + 1461 * e.olympiad + 365 * e.year + e.day

theorem exists_days {n : Nat} (h : n < 146097) : ∃ e : EraDay, e.days = n := by
  -- The last day of all would begin a fifth century, and the last of four years a fifth year.
  let c := min (n / 36524) 3
  let rest := n - 36524 * c
  let y := min (rest % 1461 / 365) 3
  refine ⟨⟨c, rest / 1461, y, rest % 1461 - 365 * y, ?_, ?_, ?_, ?_, ?_⟩, ?_⟩
  · omega
  · omega
  · omega
  · omega
  · omega
  · rw [days]
    dsimp only
    omega

end EraDay

theorem EraDay.days_lt (e : EraDay) : e.days < 146097 := by
  have := e.century_le
  have := e.olympiad_le
  have := e.year_le
  have := e.day_le
  have := e.leap
  rw [EraDay.days]
  omega

theorem EraDay.years_eq (e : EraDay) :
    (e.days - e.days / 1460 + e.days / 36524 - e.days / 146096) / 365 = e.years := by
  obtain ⟨c, q, r, d, hc, hq, hr, hd, hleap⟩ := e
  simp only [EraDay.days, EraDay.years]
  -- Only the last day of the last century counts as one of a fifth.
  have hcentury : (36524 * c + 1461 * q + 365 * r + d) / 36524 =
      c + (36524 * c + 1461 * q + 365 * r + d) / 146096 := by
    have hrest : 1461 * q + 365 * r + d < 36524 ∨ c = 3 ∧ 1461 * q + 365 * r + d = 36524 := by omega
    rcases hrest with hrest | ⟨rfl, hrest⟩
    · have hnone : (36524 * c + 1461 * q + 365 * r + d) / 146096 = 0 := by omega
      have hall : (36524 * c + 1461 * q + 365 * r + d) / 36524 = c := by omega
      rw [hnone, hall, Nat.add_zero]
    · omega
  have hyear : (36524 * c + 1461 * q + 365 * r + d) / 1460 =
      25 * c + q + (24 * c + q + 365 * r + d) / 1460 := by
    omega
  rw [hcentury, hyear]
  omega

theorem EraDay.day_eq (e : EraDay) :
    e.days - (365 * e.years + e.years / 4 - e.years / 100) = e.day := by
  obtain ⟨c, q, r, d, hc, hq, hr, hd, hleap⟩ := e
  simp only [EraDay.days, EraDay.years]
  omega

theorem ofDays_eq (era : Int) (e : EraDay) :
    ofDays (era * 146097 + e.days - 719468) = ofMarch (400 * era + e.years) e.day := by
  have hshift : era * 146097 + e.days - 719468 + epochShift = e.days + era * cycle := by
    rw [epochShift, cycle]
    omega
  have hdays := e.days_lt
  have hera : (e.days + era * cycle).fdiv cycle = era := by
    rw [Int.fdiv_eq_ediv_of_nonneg _ (by decide)]
    rw [cycle]
    omega
  have hrest : ((e.days + era * cycle).fmod cycle).toNat = e.days := by
    rw [Int.fmod_eq_emod_of_nonneg _ (by decide)]
    rw [cycle]
    omega
  simp only [ofDays, hshift, hera, hrest, e.years_eq, e.day_eq]
  simp only [ofMarch, daysFromMarch]
  split
  · next hlt =>
      rw [if_neg (by omega), Int.add_comm (e.years : Int), Int.mul_comm]
  · next hge =>
      have hle := e.day_le
      rw [if_pos (by omega), Int.add_comm (e.years : Int), Int.mul_comm]

/-- Every day lies in some four hundred years. -/
theorem exists_eraDay (days : Int) :
    ∃ (era : Int) (e : EraDay), days = era * 146097 + e.days - 719468 := by
  obtain ⟨e, he⟩ := @EraDay.exists_days ((days + 719468) % 146097).toNat (by omega)
  exact ⟨(days + 719468) / 146097, e, by omega⟩

theorem EraDay.day_lt (e : EraDay) (era : Int) :
    e.day < yearDays (isLeap (400 * era + e.years + 1)) := by
  obtain ⟨c, q, r, d, hc, hq, hr, hd, hleap⟩ := e
  rw [yearDays, isLeap, EraDay.years]
  simp only [decide_eq_true_eq]
  split <;> omega

theorem isDay_ofDays (days : Int) : (ofDays days).IsDay := by
  obtain ⟨era, e, rfl⟩ := exists_eraDay days
  rw [ofDays_eq]
  exact isDay_ofMarch (e.day_lt era)

theorem dayNumber_ofDays (days : Int) : (ofDays days).dayNumber = days := by
  obtain ⟨era, e, rfl⟩ := exists_eraDay days
  have hepoch : (⟨1970, 1, 1⟩ : Date).count = 719528 := by
    rw [count, daysBeforeYear_eq]
    decide
  rw [ofDays_eq, dayNumber, count_ofMarch _ (Nat.lt_succ_of_le e.day_le), daysBeforeYear_eq, hepoch]
  obtain ⟨c, q, r, d, hc, hq, hr, hd, hleap⟩ := e
  simp only [EraDay.years, EraDay.days]
  omega

theorem IsDay.day_lt {d : Date} (h : d.IsDay) : d.day < 32 := by
  have hall : ∀ leap : Bool, ∀ month < 13, monthDays leap month < 32 := by decide
  exact Nat.lt_of_le_of_lt h.day_le (hall _ d.month (Nat.lt_succ_of_le h.month_le))

theorem daysBeforeMonth_le : ∀ leap : Bool, ∀ month < 13, 1 ≤ month →
    daysBeforeMonth leap month + monthDays leap month ≤ yearDays leap ∧
      ∀ later < 13, month < later →
        daysBeforeMonth leap month + monthDays leap month ≤ daysBeforeMonth leap later := by
  decide

theorem IsDay.count_lt {d : Date} (h : d.IsDay) :
    daysBeforeYear d.year ≤ d.count ∧ d.count < daysBeforeYear (d.year + 1) := by
  have hmonth := (daysBeforeMonth_le (isLeap d.year) d.month (Nat.lt_succ_of_le h.month_le) h.month_pos).1
  have hpos := h.day_pos
  have hle := h.day_le
  rw [daysBeforeYear_succ, count]
  omega

theorem daysBeforeYear_le (year later : Int) (h : year ≤ later) :
    daysBeforeYear year ≤ daysBeforeYear later := by
  rw [daysBeforeYear_eq, daysBeforeYear_eq]
  omega

theorem IsDay.eq_of_dayNumber {d d' : Date} (h : d.IsDay) (h' : d'.IsDay)
    (heq : d.dayNumber = d'.dayNumber) : d = d' := by
  have hcount : d.count = d'.count := by
    rw [dayNumber, dayNumber] at heq
    omega
  have hyear : d.year = d'.year := by
    have hd := h.count_lt
    have hd' := h'.count_lt
    rcases Int.lt_trichotomy d.year d'.year with hlt | heq | hgt
    · have := daysBeforeYear_le (d.year + 1) d'.year (by omega)
      omega
    · exact heq
    · have := daysBeforeYear_le (d'.year + 1) d.year (by omega)
      omega
  obtain ⟨year, month, day⟩ := d
  obtain ⟨year', month', day'⟩ := d'
  obtain ⟨hpos, hle, hday, hlast⟩ := h
  obtain ⟨hpos', hle', hday', hlast'⟩ := h'
  dsimp only at *
  subst hyear
  simp only [count] at hcount
  have hmonth : month = month' := by
    rcases Nat.lt_trichotomy month month' with hlt | heq | hgt
    · have := (daysBeforeMonth_le (isLeap year) month (by omega) hpos).2 month' (by omega) hlt
      omega
    · exact heq
    · have := (daysBeforeMonth_le (isLeap year) month' (by omega) hpos').2 month (by omega) hgt
      omega
  subst hmonth
  have hday : day = day' := by omega
  rw [hday]

/-- The day of the week, Sunday being 0. The sixth of November 1994 was a Sunday. -/
def weekdayOf (d : Date) : Nat := ((d.dayNumber - (⟨1994, 11, 6⟩ : Date).dayNumber) % 7).toNat

theorem weekday_eq (days : Int) : weekday days = weekdayOf (ofDays days) := by
  have hsunday : (⟨1994, 11, 6⟩ : Date).dayNumber = 9075 := by
    rw [dayNumber, count, count, daysBeforeYear_eq, daysBeforeYear_eq]
    decide
  rw [weekdayOf, dayNumber_ofDays, hsunday, weekday, Int.fmod_eq_emod_of_nonneg _ (by decide)]
  omega

theorem weekdayOf_lt (d : Date) : d.weekdayOf < 7 := by
  rw [weekdayOf]
  omega

end Date

end IsolatedSite
