import IsolatedSite.Calendar.Date
import IsolatedSite.Text.Decimal

namespace IsolatedSite

/-- Seconds since day 0 began, and nanoseconds after that second. -/
structure Moment where
  seconds : Int
  nanos : Nat
  deriving DecidableEq, Repr

namespace Moment

def ofParts (seconds : Int) (nanos : Nat) : Moment :=
  ⟨seconds + (nanos / 1000000000 : Nat), nanos % 1000000000⟩

end Moment

structure ClockFace where
  days : Int
  date : Date
  hour : Nat
  minute : Nat
  second : Nat
  deriving DecidableEq, Repr

namespace ClockFace

def ofSeconds (seconds : Int) : ClockFace :=
  let days := seconds.fdiv 86400
  let rest := (seconds.fmod 86400).toNat
  { days := days
    date := Date.ofDays days
    hour := rest / 3600
    minute := rest / 60 % 60
    second := rest % 60 }

end ClockFace

namespace Calendar

def twoDigits (n : Nat) : List Char := Decimal.padded 2 n

/-- Years of four digits have no sign; all others have one and at least four digits. -/
def yearDigits (year : Int) : List Char :=
  if year < 0 then '-' :: Decimal.padded 4 year.natAbs
  else if year > 9999 then '+' :: Decimal.padded 4 year.natAbs
  else Decimal.padded 4 year.natAbs

end Calendar

end IsolatedSite
