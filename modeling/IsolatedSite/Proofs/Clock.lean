import IsolatedSite.Proofs.Decimal
import IsolatedSite.Proofs.Gregorian
import IsolatedSite.Proofs.Split

namespace IsolatedSite

structure CivilTime where
  date : Date
  hour : Nat
  minute : Nat
  second : Nat
  deriving DecidableEq, Repr

namespace CivilTime

structure IsTime (c : CivilTime) : Prop where
  date : c.date.IsDay
  hour : c.hour < 24
  minute : c.minute < 60
  second : c.second < 60

def seconds (c : CivilTime) : Int :=
  c.date.dayNumber * 86400 + c.hour * 3600 + c.minute * 60 + c.second

theorem IsTime.eq_of_seconds {c c' : CivilTime} (h : c.IsTime) (h' : c'.IsTime)
    (heq : c.seconds = c'.seconds) : c = c' := by
  obtain ⟨date, hour, minute, second⟩ := c
  obtain ⟨date', hour', minute', second'⟩ := c'
  obtain ⟨hdate, hhour, hminute, hsecond⟩ := h
  obtain ⟨hdate', hhour', hminute', hsecond'⟩ := h'
  simp only [seconds] at *
  have hday : date.dayNumber = date'.dayNumber := by omega
  have hrest : hour = hour' ∧ minute = minute' ∧ second = second' := by omega
  obtain ⟨rfl, rfl, rfl⟩ := hrest
  rw [hdate.eq_of_dayNumber hdate' hday]

end CivilTime

namespace ClockFace

def civil (f : ClockFace) : CivilTime := ⟨f.date, f.hour, f.minute, f.second⟩

variable (seconds : Int)

theorem isTime_civil : (ofSeconds seconds).civil.IsTime := by
  have hrest : (seconds.fmod 86400).toNat < 86400 := by
    rw [Int.fmod_eq_emod_of_nonneg _ (by decide)]
    omega
  refine ⟨Date.isDay_ofDays _, ?_, ?_, ?_⟩ <;> simp only [civil, ofSeconds] <;> omega

theorem seconds_civil : (ofSeconds seconds).civil.seconds = seconds := by
  simp only [civil, ofSeconds, CivilTime.seconds, Date.dayNumber_ofDays]
  rw [Int.fdiv_eq_ediv_of_nonneg _ (by decide), Int.fmod_eq_emod_of_nonneg _ (by decide)]
  omega

end ClockFace

theorem all_getD {p : Char → Bool} {names : List String}
    (h : names.all (fun name => name.toList.all p) = true) (i : Nat) :
    (names.getD i "").toList.all p = true := by
  rw [List.getD_eq_getElem?_getD]
  cases hi : names[i]? with
  | none => simp
  | some name => exact List.all_eq_true.1 h name (List.mem_of_getElem? hi)

theorem not_mem_getD {c : Char} (h : c.isAlpha = false) (names : List String)
    (hnames : names.all (fun name => name.toList.all Char.isAlpha) = true) (i : Nat) :
    c ∉ (names.getD i "").toList := by
  intro hmem
  have hall := all_getD hnames i
  rw [List.all_eq_true.1 hall c hmem] at h
  cases h

namespace Date

theorem not_mem_monthName {c : Char} (h : c.isAlpha = false) (d : Date) : c ∉ d.monthName.toList :=
  not_mem_getD h monthNames (by decide +kernel) _

end Date

namespace Calendar

theorem yearDigits_of_fourDigits {year : Int} (h : 0 ≤ year ∧ year ≤ 9999) :
    yearDigits year = Decimal.padded 4 year.toNat := by
  rw [yearDigits, if_neg (by omega), if_neg (by omega)]
  congr 1
  omega

theorem not_mem_yearDigits {c : Char} (h : Decimal.isDigit c = false) (hminus : c ≠ '-')
    (hplus : c ≠ '+') (year : Int) : c ∉ yearDigits year := by
  have hdigits : c ∉ Decimal.padded 4 year.natAbs := Decimal.not_mem_padded h
  rw [yearDigits]
  split
  · exact List.not_mem_cons_of_ne_of_not_mem hminus hdigits
  · split
    · exact List.not_mem_cons_of_ne_of_not_mem hplus hdigits
    · exact hdigits

def monthOfName? (name : List Char) : Option Nat :=
  match String.ofList name with
  | "Jan" => some 1
  | "Feb" => some 2
  | "Mar" => some 3
  | "Apr" => some 4
  | "May" => some 5
  | "Jun" => some 6
  | "Jul" => some 7
  | "Aug" => some 8
  | "Sep" => some 9
  | "Oct" => some 10
  | "Nov" => some 11
  | "Dec" => some 12
  | _ => none

theorem monthOfName?_monthName {d : Date} (h : d.IsDay) :
    monthOfName? d.monthName.toList = some d.month := by
  have hall : ∀ month < 13, 1 ≤ month →
      monthOfName? (Date.monthNames.getD (month - 1) "").toList = some month := by
    decide +kernel
  exact hall d.month (Nat.lt_succ_of_le h.month_le) h.month_pos

def readClock? (read : List Char → Option Nat) (cs : List Char) : Option (Nat × Nat × Nat) :=
  match splitOn ':' cs with
  | [hour, minute, second] => do return (← read hour, ← read minute, ← read second)
  | _ => none

theorem readClock?_written {read : List Char → Option Nat} {hour minute second : Nat}
    (hhour : read (twoDigits hour) = some hour) (hminute : read (twoDigits minute) = some minute)
    (hsecond : read (twoDigits second) = some second) :
    readClock? read (twoDigits hour ++ ':' :: twoDigits minute ++ ':' :: twoDigits second) =
      some (hour, minute, second) := by
  have hcolon : ∀ n, ':' ∉ twoDigits n := fun n => Decimal.not_mem_padded (by decide)
  have hjoin : twoDigits hour ++ ':' :: twoDigits minute ++ ':' :: twoDigits second =
      joinWith [':'] [twoDigits hour, twoDigits minute, twoDigits second] := by
    simp [joinWith]
  have hsplit : splitOn ':' (twoDigits hour ++ ':' :: twoDigits minute ++ ':' :: twoDigits second) =
      [twoDigits hour, twoDigits minute, twoDigits second] := by
    rw [hjoin]
    exact splitOn_joinWith (List.cons_ne_nil _ _) (by simp [hcolon])
  simp only [readClock?, hsplit, hhour, hminute, hsecond]
  rfl

end Calendar

end IsolatedSite
