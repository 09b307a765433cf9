namespace IsolatedSite

structure Date where
  year : Int
  month : Nat
  day : Nat
  deriving DecidableEq, Repr

namespace Date

def epochShift : Int := 719468

def cycle : Int := 146097

/-- The date of a day. Years are counted from March, so that a leap day ends its year. -/
def ofDays (days : Int) : Date :=
  let z := days + epochShift
  let era := z.fdiv cycle
  let doe := (z.fmod cycle).toNat
  let yoe := (doe - doe / 1460 + doe / 36524 - doe / 146096) / 365
  let doy := doe - (365 * yoe + yoe / 4 - yoe / 100)
  let mp := (5 * doy + 2) / 153
  let month := if mp < 10 then mp + 3 else mp - 9
  let year := yoe + era * 400
  { year := if month ≤ 2 then year + 1 else year
    month := month
    day := doy - (153 * mp + 2) / 5 + 1 }

def toDays (d : Date) : Int :=
  let y := if d.month ≤ 2 then d.year - 1 else d.year
  let era := y.fdiv 400
  let yoe := (y.fmod 400).toNat
  let mp := if d.month > 2 then d.month - 3 else d.month + 9
  let doy := (153 * mp + 2) / 5 + d.day - 1
  let doe := yoe * 365 + yoe / 4 - yoe / 100 + doy
  era * cycle + doe - epochShift

/-- Day 0 was a Thursday; Sunday is 0. -/
def weekday (days : Int) : Nat := ((days + 4).fmod 7).toNat

def weekdayNames : List String := ["Sun", "Mon", "Tue", "Wed", "Thu", "Fri", "Sat"]

def monthNames : List String :=
  ["Jan", "Feb", "Mar", "Apr", "May", "Jun", "Jul", "Aug", "Sep", "Oct", "Nov", "Dec"]

def weekdayName (days : Int) : String := weekdayNames.getD (weekday days) ""

def monthName (d : Date) : String := monthNames.getD (d.month - 1) ""

end Date

end IsolatedSite
