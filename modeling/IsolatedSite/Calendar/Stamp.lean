import IsolatedSite.Calendar.Moment

namespace IsolatedSite

/-- A moment with the seconds that the local clock is ahead. Nanoseconds from one thousand million
on belong to a leap second, which is shown as the second after. -/
structure Stamp where
  moment : Moment
  offset : Int
  deriving DecidableEq, Repr

namespace Stamp

def face (s : Stamp) : ClockFace := ClockFace.ofSeconds (s.moment.seconds + s.offset)

def shownSecond (s : Stamp) : Nat := s.face.second + s.moment.nanos / 1000000000

def shownNanos (s : Stamp) : Nat := s.moment.nanos % 1000000000

def offsetSign (s : Stamp) : Char := if s.offset < 0 then '-' else '+'

/-- The offset in minutes, a half minute rounded up. The sign is that of the exact offset. -/
def offsetMinutes (s : Stamp) : Nat := (s.offset.natAbs + 30) / 60

def offsetDigits (s : Stamp) (between : List Char) : List Char :=
  s.offsetSign :: Calendar.twoDigits (s.offsetMinutes / 60) ++ between ++
    Calendar.twoDigits (s.offsetMinutes % 60)

def timeDigits (s : Stamp) : List Char :=
  Calendar.twoDigits s.face.hour ++ ':' :: Calendar.twoDigits s.face.minute ++
    ':' :: Calendar.twoDigits s.shownSecond

def common (s : Stamp) : List Char :=
  Calendar.twoDigits s.face.date.day ++ '/' :: s.face.date.monthName.toList ++
    '/' :: Calendar.yearDigits s.face.date.year ++ ':' :: s.timeDigits ++
    ' ' :: s.offsetDigits []

def fractionDigits (nanos : Nat) : List Char :=
  if nanos = 0 then []
  else if nanos % 1000000 = 0 then '.' :: Decimal.padded 3 (nanos / 1000000)
  else if nanos % 1000 = 0 then '.' :: Decimal.padded 6 (nanos / 1000)
  else '.' :: Decimal.padded 9 nanos

def standard (s : Stamp) : List Char :=
  Calendar.yearDigits s.face.date.year ++ '-' :: Calendar.twoDigits s.face.date.month ++
    '-' :: Calendar.twoDigits s.face.date.day ++ 'T' :: s.timeDigits ++
    fractionDigits s.shownNanos ++ s.offsetDigits [':']

end Stamp

end IsolatedSite
