import IsolatedSite.Proofs.Clock
import IsolatedSite.Proofs.JsonLine
import IsolatedSite.Proofs.TextLine

namespace IsolatedSite

structure ZonedTime where
  clock : CivilTime
  behind : Bool
  minutes : Nat
  deriving DecidableEq, Repr

namespace ZonedTime

def offset (z : ZonedTime) : Int := if z.behind then -(z.minutes * 60) else z.minutes * 60

def instant (z : ZonedTime) : Int := z.clock.seconds - z.offset

/-- What is shown at a stamp. A leap second is shown as the second after, and the offset to the nearest
minute. -/
structure Shows (z : ZonedTime) (s : Stamp) : Prop where
  date : z.clock.date.IsDay
  hour : z.clock.hour < 24
  minute : z.clock.minute < 60
  second : z.clock.second < 60 + s.moment.nanos / 1000000000
  clock : z.clock.seconds = s.moment.seconds + s.offset + (s.moment.nanos / 1000000000 : Nat)
  behind : z.behind = true ↔ s.offset < 0
  least : 60 * z.minutes ≤ s.offset.natAbs + 30
  greatest : s.offset.natAbs < 60 * z.minutes + 30

theorem Shows.instant_eq {z : ZonedTime} {s : Stamp} (h : z.Shows s) (hoffset : 60 ∣ s.offset)
    (hnanos : s.moment.nanos < 1000000000) : z.instant = s.moment.seconds := by
  have hclock := h.clock
  have hleast := h.least
  have hgreatest := h.greatest
  have hbehind := h.behind
  rw [instant, offset, hclock]
  split
  · next hsign =>
    have := hbehind.1 hsign
    omega
  · next hsign =>
    have : ¬ s.offset < 0 := fun hneg => hsign (hbehind.2 hneg)
    omega

end ZonedTime

namespace Calendar

def readYear? : List Char → Option Int
  | '-' :: digits => (Decimal.read? digits).map fun n : Nat => -(n : Int)
  | '+' :: digits => (Decimal.read? digits).map fun n : Nat => (n : Int)
  | digits => (Decimal.read? digits).map fun n : Nat => (n : Int)

theorem readYear?_yearDigits (year : Int) : readYear? (yearDigits year) = some year := by
  have hread := Decimal.read?_padded 4 year.natAbs
  rw [yearDigits]
  split
  · rw [readYear?, hread, Option.map_some]
    congr 1
    omega
  · split
    · rw [readYear?, hread, Option.map_some]
      congr 1
      omega
    · have hminus : ∀ digits, Decimal.padded 4 year.natAbs ≠ '-' :: digits := fun digits h =>
        Decimal.not_mem_padded (c := '-') (by decide) (h ▸ List.mem_cons_self)
      have hplus : ∀ digits, Decimal.padded 4 year.natAbs ≠ '+' :: digits := fun digits h =>
        Decimal.not_mem_padded (c := '+') (by decide) (h ▸ List.mem_cons_self)
      rw [readYear?.eq_3 _ hminus hplus, hread, Option.map_some]
      congr 1
      omega

def isSign (c : Char) : Bool := c == '+' || c == '-'

def readOffset? (divide : List Char → List Char × List Char) : List Char → Option (Bool × Nat)
  | [] => none
  | sign :: digits => do
    let parts := divide digits
    let hours ← Decimal.read? parts.1
    let minutes ← Decimal.read? parts.2
    if isSign sign then some (sign == '-', hours * 60 + minutes) else none

def readFraction? : Option (List Char) → Option Nat
  | none => some 0
  | some digits =>
    if digits.length ≤ 9 then
      (Decimal.read? digits).map (· * Nat.pow 10 (9 - digits.length))
    else none

end Calendar

namespace Stamp

open Calendar

def readCommon? (cs : List Char) : Option ZonedTime := do
  let (clock, some offset) := splitFirst ' ' cs | none
  let [day, month, rest] := splitOn '/' clock | none
  let (year, some time) := splitFirst ':' rest | none
  let (hour, minute, second) ← readClock? Decimal.read? time
  let (behind, minutes) ← readOffset? (fun digits => digits.splitAt (digits.length - 2)) offset
  return ⟨⟨⟨← readYear? year, ← monthOfName? month, ← Decimal.read? day⟩, hour, minute, second⟩, behind,
    minutes⟩

def readStandard? (cs : List Char) : Option (ZonedTime × Nat) := do
  let (date, some rest) := splitFirst 'T' cs | none
  let (yearAndMonth, day) ← splitLast? '-' date
  let (year, month) ← splitLast? '-' yearAndMonth
  let (time, fraction) := splitFirst '.' (rest.takeWhile fun c => !isSign c)
  let (hour, minute, second) ← readClock? Decimal.read? time
  let (behind, minutes) ← readOffset? (fun digits => ((splitFirst ':' digits).1, (splitFirst ':' digits).2.getD []))
    (rest.dropWhile fun c => !isSign c)
  return (⟨⟨⟨← readYear? year, ← Decimal.read? month, ← Decimal.read? day⟩, hour, minute, second⟩, behind,
    minutes⟩, ← readFraction? fraction)

variable (s : Stamp)

def shown : ZonedTime :=
  ⟨⟨s.face.date, s.face.hour, s.face.minute, s.shownSecond⟩, decide (s.offset < 0), s.offsetMinutes⟩

theorem shows_shown : s.shown.Shows s := by
  have htime := ClockFace.isTime_civil (s.moment.seconds + s.offset)
  have hclock := ClockFace.seconds_civil (s.moment.seconds + s.offset)
  refine ⟨htime.date, htime.hour, htime.minute, ?_, ?_, decide_eq_true_iff, ?_, ?_⟩
  · exact Nat.add_lt_add_right htime.second _
  · rw [← hclock]
    simp only [shown, CivilTime.seconds, ClockFace.civil, shownSecond, face, Int.natCast_add]
    omega
  · simp only [shown, offsetMinutes]
    omega
  · simp only [shown, offsetMinutes]
    omega

theorem offsetSign_spec : isSign s.offsetSign = true ∧ (s.offsetSign == '-') = decide (s.offset < 0) := by
  rw [offsetSign]
  split <;> simp_all [isSign]

theorem readOffset?_offsetDigits (between : List Char) (divide : List Char → List Char × List Char)
    (h : ∀ hours minutes, minutes < 60 →
      divide (twoDigits hours ++ between ++ twoDigits minutes) = (twoDigits hours, twoDigits minutes)) :
    readOffset? divide (s.offsetDigits between) = some (decide (s.offset < 0), s.offsetMinutes) := by
  have hread : ∀ n, Decimal.read? (twoDigits n) = some n := fun n => Decimal.read?_padded 2 n
  have hminutes : s.offsetMinutes / 60 * 60 + s.offsetMinutes % 60 = s.offsetMinutes := by omega
  have hdivide := h (s.offsetMinutes / 60) (s.offsetMinutes % 60) (by omega)
  simp only [offsetDigits, List.cons_append, readOffset?, hdivide, hread, Option.bind_eq_bind,
    Option.bind_some, hminutes, s.offsetSign_spec.1, s.offsetSign_spec.2, if_true]

theorem readClock?_timeDigits :
    readClock? Decimal.read? s.timeDigits = some (s.face.hour, s.face.minute, s.shownSecond) :=
  readClock?_written (Decimal.read?_padded 2 _) (Decimal.read?_padded 2 _) (Decimal.read?_padded 2 _)

theorem not_mem_timeDigits {c : Char} (h : Decimal.isDigit c = false) (hcolon : c ≠ ':') :
    c ∉ s.timeDigits := by
  have hdigits : ∀ n, c ∉ twoDigits n := fun n => Decimal.not_mem_padded h
  simp [timeDigits, hdigits, hcolon]

theorem isDay_face : s.face.date.IsDay := Date.isDay_ofDays _

theorem readCommon?_common : readCommon? s.common = some s.shown := by
  have hslash : splitOn '/' s.clockText =
      [twoDigits s.face.date.day, s.face.date.monthName.toList,
        yearDigits s.face.date.year ++ ':' :: s.timeDigits] := by
    have hjoin : s.clockText = joinWith ['/'] [twoDigits s.face.date.day, s.face.date.monthName.toList,
        yearDigits s.face.date.year ++ ':' :: s.timeDigits] := by
      simp [clockText, joinWith]
    rw [hjoin]
    apply splitOn_joinWith (List.cons_ne_nil _ _)
    simp only [List.forall_mem_cons]
    refine ⟨Decimal.not_mem_padded (by decide), Date.not_mem_monthName (by decide) _, ?_,
      fun _ h => absurd h List.not_mem_nil⟩
    rw [List.mem_append, List.mem_cons, not_or, not_or]
    exact ⟨not_mem_yearDigits (by decide) (by decide) (by decide) _, by decide,
      s.not_mem_timeDigits (by decide) (by decide)⟩
  have hcolon := splitFirst_append_sep (not_mem_yearDigits (c := ':') (by decide) (by decide) (by decide)
    s.face.date.year) s.timeDigits
  have hday : Decimal.read? (twoDigits s.face.date.day) = some s.face.date.day := Decimal.read?_padded 2 _
  have hoffset := s.readOffset?_offsetDigits [] (fun digits => digits.splitAt (digits.length - 2)) <| by
    intro hours minutes hlt
    have hlength : (twoDigits minutes).length = 2 :=
      Decimal.length_padded (by decide) (by show _ < 100; omega)
    simp [hlength]
  rw [common_eq, readCommon?, splitFirst_append_sep s.blank_not_mem_clockText]
  simp only [hslash, hcolon, readClock?_timeDigits, hoffset, readYear?_yearDigits,
    monthOfName?_monthName s.isDay_face, hday, Option.bind_eq_bind, Option.bind_some]
  rfl

/-- Digits of a fraction come in as many places as they need, and are read as if all nine were there. -/
theorem readFraction?_fractionDigits {nanos : Nat} (h : nanos < 1000000000) (before : List Char)
    (hdot : '.' ∉ before) :
    ∃ fraction, splitFirst '.' (before ++ fractionDigits nanos) = (before, fraction) ∧
      readFraction? fraction = some nanos := by
  have hread : ∀ width n, 0 < width → width ≤ 9 → n < Nat.pow 10 width → n * Nat.pow 10 (9 - width) = nanos →
      ∃ fraction, splitFirst '.' (before ++ '.' :: Decimal.padded width n) = (before, fraction) ∧
        readFraction? fraction = some nanos := by
    intro width n hpos hle hlt hvalue
    refine ⟨_, splitFirst_append_sep hdot _, ?_⟩
    rw [readFraction?, Decimal.length_padded hpos hlt, if_pos hle, Decimal.read?_padded, Option.map_some,
      hvalue]
  rw [fractionDigits]
  split
  · next hzero =>
    rw [List.append_nil, splitFirst_of_not_mem hdot]
    exact ⟨_, rfl, by rw [readFraction?, hzero]⟩
  · split
    · exact hread 3 _ (by decide) (by decide) (by show _ < 1000; omega) (by show _ * 1000000 = _; omega)
    · split
      · exact hread 6 _ (by decide) (by decide) (by show _ < 1000000; omega) (by show _ * 1000 = _; omega)
      · exact hread 9 _ (by decide) (by decide) h (Nat.mul_one _)

theorem not_mem_fractionDigits {c : Char} (h : Decimal.isDigit c = false) (hdot : c ≠ '.') (nanos : Nat) :
    c ∉ fractionDigits nanos := by
  have hdigits : ∀ width n, c ∉ '.' :: Decimal.padded width n := fun width n =>
    List.not_mem_cons_of_ne_of_not_mem hdot (Decimal.not_mem_padded h)
  rw [fractionDigits]
  split
  · exact List.not_mem_nil
  · split
    · exact hdigits 3 _
    · split
      · exact hdigits 6 _
      · exact hdigits 9 _

def dateDigits : List Char :=
  yearDigits s.face.date.year ++ '-' :: twoDigits s.face.date.month ++ '-' :: twoDigits s.face.date.day

def exactTimeDigits : List Char := s.timeDigits ++ fractionDigits s.shownNanos

theorem standard_eq :
    s.standard = s.dateDigits ++ 'T' :: (s.exactTimeDigits ++ s.offsetDigits [':']) := by
  simp [standard, dateDigits, exactTimeDigits]

theorem not_mem_dateDigits : 'T' ∉ s.dateDigits := by
  have hdigits : ∀ n, 'T' ∉ twoDigits n := fun n => Decimal.not_mem_padded (by decide)
  have hyear := not_mem_yearDigits (c := 'T') (by decide) (by decide) (by decide) s.face.date.year
  simp [dateDigits, hdigits, hyear]

/-- The year may begin with the sign that stands between the other numbers, so the date is read from
its end. -/
theorem splitLast?_dateDigits :
    splitLast? '-' s.dateDigits = some (yearDigits s.face.date.year ++ '-' :: twoDigits s.face.date.month,
      twoDigits s.face.date.day) :=
  splitLast?_append_sep _ (Decimal.not_mem_padded (by decide))

theorem not_isSign_of_mem {c : Char} (h : c ∈ s.exactTimeDigits) : (!isSign c) = true := by
  rw [Bool.not_eq_true', Bool.eq_false_iff]
  intro hsign
  have hother : Decimal.isDigit c = false ∧ c ≠ ':' ∧ c ≠ '.' := by
    rcases Bool.or_eq_true _ _ ▸ hsign with h | h <;> rw [eq_of_beq h] <;> decide
  rcases List.mem_append.1 h with h | h
  · exact s.not_mem_timeDigits hother.1 hother.2.1 h
  · exact not_mem_fractionDigits hother.1 hother.2.2 _ h

theorem takeWhile_exactTimeDigits :
    (s.exactTimeDigits ++ s.offsetDigits [':']).takeWhile (fun c => !isSign c) = s.exactTimeDigits ∧
      (s.exactTimeDigits ++ s.offsetDigits [':']).dropWhile (fun c => !isSign c) = s.offsetDigits [':'] := by
  have hsign := s.offsetSign_spec.1
  rw [List.takeWhile_append_of_pos fun _ => s.not_isSign_of_mem,
    List.dropWhile_append_of_pos fun _ => s.not_isSign_of_mem]
  simp [offsetDigits, hsign]

theorem readStandard?_standard :
    readStandard? s.standard = some (s.shown, s.moment.nanos % 1000000000) := by
  obtain ⟨fraction, hfraction, hnanos⟩ := readFraction?_fractionDigits (Nat.mod_lt s.moment.nanos (by decide))
    s.timeDigits (s.not_mem_timeDigits (by decide) (by decide))
  have hfraction' : splitFirst '.' s.exactTimeDigits = (s.timeDigits, fraction) := hfraction
  have hread : ∀ n, Decimal.read? (twoDigits n) = some n := fun n => Decimal.read?_padded 2 n
  have hmonth : splitLast? '-' (yearDigits s.face.date.year ++ '-' :: twoDigits s.face.date.month) =
      some (yearDigits s.face.date.year, twoDigits s.face.date.month) :=
    splitLast?_append_sep _ (Decimal.not_mem_padded (by decide))
  have hoffset := s.readOffset?_offsetDigits [':']
    (fun digits => ((splitFirst ':' digits).1, (splitFirst ':' digits).2.getD [])) <| by
    intro hours minutes _
    have hcolon : ':' ∉ twoDigits hours := Decimal.not_mem_padded (by decide)
    simp [splitFirst_append_sep hcolon]
  rw [standard_eq, readStandard?, splitFirst_append_sep s.not_mem_dateDigits]
  simp only [splitLast?_dateDigits, hmonth, s.takeWhile_exactTimeDigits.1, s.takeWhile_exactTimeDigits.2,
    hfraction', readClock?_timeDigits, hoffset, readYear?_yearDigits, hread, hnanos, Option.bind_eq_bind,
    Option.bind_some]
  rfl

end Stamp

namespace AccessEntry

def stampIn (address line : String) : List Char :=
  (line.toList.drop (address.length + 6)).takeWhile (· != ']')

variable (e : AccessEntry)

theorem bracket_not_mem_common (s : Stamp) : ']' ∉ s.common := by
  have hsign : ']' ≠ s.offsetSign := by
    rintro h
    have := s.offsetSign_spec.1
    rw [← h] at this
    cases this
  have hdigits : ∀ n, ']' ∉ Calendar.twoDigits n := fun n => Decimal.not_mem_padded (by decide)
  have hmonth := Date.not_mem_monthName (c := ']') (by decide) s.face.date
  have hyear := Calendar.not_mem_yearDigits (c := ']') (by decide) (by decide) (by decide) s.face.date.year
  have htime := s.not_mem_timeDigits (c := ']') (by decide) (by decide)
  simp [Stamp.common, Stamp.offsetDigits, hdigits, hmonth, hyear, htime, hsign]

theorem stampIn_of_begins {address line : String} {s : Stamp}
    (h : address.toList ++ " - - [".toList ++ (s.common ++ [']']) <+: line.toList) :
    stampIn address line = s.common := by
  obtain ⟨rest, hline⟩ := h
  have hlength : (address.toList ++ " - - [".toList).length = address.length + 6 := by
    rw [List.length_append, String.length_toList]
    rfl
  rw [stampIn, ← hline, ← hlength, List.append_assoc, List.drop_left, List.append_assoc,
    List.takeWhile_append_of_pos]
  · simp
  · intro c hc
    rw [bne_iff_ne]
    rintro rfl
    exact bracket_not_mem_common s hc

theorem stampIn_line {format : LineFormat} (h : format ≠ .json) :
    stampIn e.remoteAddress (e.line format) = e.time.common := by
  apply stampIn_of_begins
  cases format with
  | common => simp [line, commonLine]
  | combined => simp [line, combinedLine, commonLine]
  | json => exact absurd rfl h

/-- All lines of an entry tell one date, time of day and offset, those that a clock at this offset shows
at the time of the entry. If the offset is in whole minutes and the second is no leap second, these and
the digits of the fraction are the second and the nanosecond of the entry. -/
theorem lines_tell_same_instant :
    ∃ z : ZonedTime, z.Shows e.time ∧
      (∀ format ≠ .json, Stamp.readCommon? (stampIn e.remoteAddress (e.line format)) = some z) ∧
      (∃ fields text, Json.parse (e.line .json).toList = some (.object fields) ∧
        fields.lookup "time" = some (.string text) ∧
        Stamp.readStandard? text.toList = some (z, e.time.moment.nanos % 1000000000)) ∧
      (60 ∣ e.time.offset → e.time.moment.nanos < 1000000000 →
        z.instant = e.time.moment.seconds ∧
          e.time.moment.nanos % 1000000000 = e.time.moment.nanos) := by
  refine ⟨e.time.shown, e.time.shows_shown, ?_, ?_, ?_⟩
  · intro format hformat
    rw [e.stampIn_line hformat, Stamp.readCommon?_common]
  · refine ⟨e.jsonFields, _, ?_, e.toldBy_jsonFields.time, ?_⟩
    · rw [line, String.toList_ofList, Json.parse_write e.fits_toJson, toJson_eq]
    · rw [String.toList_ofList, Stamp.readStandard?_standard]
  · intro hoffset hnanos
    exact ⟨e.time.shows_shown.instant_eq hoffset hnanos, Nat.mod_eq_of_lt hnanos⟩

def newYearEntry : AccessEntry :=
  { markedEntry none 0 with time := ⟨⟨-62167219200, 500000000⟩, -12600⟩ }

theorem lines_tell_same_instant_newYearEntry :
    stampIn newYearEntry.remoteAddress (newYearEntry.line .common) =
        "31/Dec/-0001:20:30:00 -0330".toList ∧
      ∃ z fields text, Stamp.readCommon? "31/Dec/-0001:20:30:00 -0330".toList = some z ∧
        Json.parse (newYearEntry.line .json).toList = some (.object fields) ∧
        fields.lookup "time" = some (.string text) ∧
        Stamp.readStandard? text.toList = some (z, 500000000) ∧ z.instant = -62167219200 := by
  have hstamp : stampIn newYearEntry.remoteAddress (newYearEntry.line .common) =
      "31/Dec/-0001:20:30:00 -0330".toList := by
    decide +kernel
  obtain ⟨z, -, hcommon, ⟨fields, text, hparse, htime, hread⟩, hinstant⟩ :=
    lines_tell_same_instant newYearEntry
  refine ⟨hstamp, z, fields, text, ?_, hparse, htime, hread, (hinstant (by decide) (by decide)).1⟩
  rw [← hstamp]
  exact hcommon .common nofun

end AccessEntry

end IsolatedSite
