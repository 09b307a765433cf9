import IsolatedSite.Calendar.Moment

namespace IsolatedSite.HttpDate

/-- The calendar ends with these years. A file system can hold times beyond them. -/
def firstYear : Int := -262143

def lastYear : Int := 262142

def inCalendar (seconds : Int) : Bool :=
  Date.toDays ⟨firstYear, 1, 1⟩ * 86400 ≤ seconds &&
    seconds < (Date.toDays ⟨lastYear, 12, 31⟩ + 1) * 86400

def ofSeconds (seconds : Int) : String :=
  let face := ClockFace.ofSeconds seconds
  String.ofList
    ((Date.weekdayName face.days).toList ++ ", ".toList ++ Calendar.twoDigits face.date.day ++
      ' ' :: face.date.monthName.toList ++ ' ' :: Calendar.yearDigits face.date.year ++
      ' ' :: Calendar.twoDigits face.hour ++ ':' :: Calendar.twoDigits face.minute ++
      ':' :: Calendar.twoDigits face.second ++ " GMT".toList)

def ofMoment? (m : Moment) : Option String :=
  if inCalendar m.seconds then some (ofSeconds m.seconds) else none

end IsolatedSite.HttpDate
