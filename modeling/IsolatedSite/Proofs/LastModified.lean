import IsolatedSite.Proofs.Clock
import IsolatedSite.Proofs.ContentType
import IsolatedSite.Proofs.HttpDate

namespace IsolatedSite

/-- The date and time of the second that begins last before a moment. -/
structure CivilTime.Shows (c : CivilTime) (seconds : Int) (nanos : Nat) : Prop where
  time : c.IsTime
  begun : c.seconds * 1000000000 ≤ seconds * 1000000000 + nanos
  ended : seconds * 1000000000 + nanos < (c.seconds + 1) * 1000000000

namespace CivilTime.Shows

variable {c : CivilTime} {seconds : Int} {nanos : Nat}

theorem seconds_eq (h : c.Shows seconds nanos) : c.seconds = (Moment.ofParts seconds nanos).seconds := by
  have hbegun := h.begun
  have hended := h.ended
  simp only [Moment.ofParts]
  omega

theorem exists_iff_eq (seconds : Int) (nanos : Nat) :
    ∃ c : CivilTime, ∀ other : CivilTime, other.Shows seconds nanos ↔ other = c := by
  let k := (Moment.ofParts seconds nanos).seconds
  have htime := ClockFace.isTime_civil k
  have hk : (ClockFace.ofSeconds k).civil.seconds = seconds + (nanos / 1000000000 : Nat) :=
    ClockFace.seconds_civil k
  refine ⟨(ClockFace.ofSeconds k).civil, fun other => ⟨fun h => ?_, ?_⟩⟩
  · exact h.time.eq_of_seconds htime (h.seconds_eq.trans (ClockFace.seconds_civil k).symm)
  · rintro rfl
    exact ⟨htime, by omega, by omega⟩

end CivilTime.Shows

namespace HttpDate

def weekdayOfMark? (mark : List Char) : Option Nat :=
  match String.ofList mark with
  | "Sun," => some 0
  | "Mon," => some 1
  | "Tue," => some 2
  | "Wed," => some 3
  | "Thu," => some 4
  | "Fri," => some 5
  | "Sat," => some 6
  | _ => none

def readExactly? (width : Nat) (cs : List Char) : Option Nat :=
  if cs.length = width then Decimal.read? cs else none

def read? (cs : List Char) : Option (Nat × CivilTime) :=
  match splitOn ' ' cs with
  | [weekday, day, month, year, clock, ['G', 'M', 'T']] => do
    let weekday ← weekdayOfMark? weekday
    let day ← readExactly? 2 day
    let month ← Calendar.monthOfName? month
    let year ← readExactly? 4 year
    let (hour, minute, second) ← Calendar.readClock? (readExactly? 2) clock
    return (weekday, ⟨⟨year, month, day⟩, hour, minute, second⟩)
  | _ => none

theorem readExactly?_padded {width n : Nat} (hwidth : 0 < width) (h : n < Nat.pow 10 width) :
    readExactly? width (Decimal.padded width n) = some n := by
  rw [readExactly?, if_pos (Decimal.length_padded hwidth h), Decimal.read?_padded]

theorem readExactly?_yearDigits (year : Int) : readExactly? 4 (Calendar.yearDigits year) =
    if 0 ≤ year ∧ year ≤ 9999 then some year.toNat else none := by
  split
  · next h =>
    rw [Calendar.yearDigits_of_fourDigits h]
    exact readExactly?_padded (by decide) (by show _ < 10000; omega)
  · have hlength := Decimal.le_length_padded 4 year.natAbs
    rw [readExactly?, if_neg]
    rw [Calendar.yearDigits]
    split
    · rw [List.length_cons]
      omega
    · rw [if_pos (by omega), List.length_cons]
      omega

variable {c : CivilTime}

def words (c : CivilTime) : List (List Char) :=
  [
    (Date.weekdayNames.getD c.date.weekdayOf "").toList ++ [','], Calendar.twoDigits c.date.day,
    c.date.monthName.toList, Calendar.yearDigits c.date.year,
    Calendar.twoDigits c.hour ++ ':' :: Calendar.twoDigits c.minute ++
      ':' :: Calendar.twoDigits c.second,
    ['G', 'M', 'T']]

theorem toList_ofSeconds (h : c.IsTime) :
    (ofSeconds c.seconds).toList = joinWith [' '] (words c) := by
  have hc : (ClockFace.ofSeconds c.seconds).civil = c :=
    (ClockFace.isTime_civil _).eq_of_seconds h (ClockFace.seconds_civil _)
  have hdate : (ClockFace.ofSeconds c.seconds).date = c.date := congrArg CivilTime.date hc
  have hweekday : Date.weekdayName (ClockFace.ofSeconds c.seconds).days =
      Date.weekdayNames.getD c.date.weekdayOf "" := by
    rw [Date.weekdayName, Date.weekday_eq, ← hdate]
    rfl
  have hhour : (ClockFace.ofSeconds c.seconds).hour = c.hour := congrArg CivilTime.hour hc
  have hminute : (ClockFace.ofSeconds c.seconds).minute = c.minute := congrArg CivilTime.minute hc
  have hsecond : (ClockFace.ofSeconds c.seconds).second = c.second := congrArg CivilTime.second hc
  simp [ofSeconds, words, joinWith, hweekday, hdate, hhour, hminute, hsecond]

theorem blank_not_mem_words (c : CivilTime) : ∀ word ∈ words c, ' ' ∉ word := by
  have hdigits : ∀ n, ' ' ∉ Calendar.twoDigits n := fun _ => Decimal.not_mem_padded (by decide)
  have hweekday := not_mem_getD (c := ' ') (by decide) Date.weekdayNames (by decide +kernel)
    c.date.weekdayOf
  intro word hword
  simp only [words, List.mem_cons, List.not_mem_nil, or_false] at hword
  rcases hword with rfl | rfl | rfl | rfl | rfl | rfl
  · simp only [List.mem_append, hweekday, false_or]
    decide
  · exact hdigits _
  · exact Date.not_mem_monthName (by decide) c.date
  · exact Calendar.not_mem_yearDigits (by decide) (by decide) (by decide) _
  · simp [hdigits]
  · decide

theorem weekdayOfMark?_getD {weekday : Nat} (h : weekday < 7) :
    weekdayOfMark? ((Date.weekdayNames.getD weekday "").toList ++ [',']) = some weekday := by
  have hall : ∀ weekday < 7,
      weekdayOfMark? ((Date.weekdayNames.getD weekday "").toList ++ [',']) = some weekday := by
    decide +kernel
  exact hall weekday h

/-- What is read from a date is the time that it was made of, and the day of the week of its date. In
years of more digits nothing is read. -/
theorem read?_ofSeconds (h : c.IsTime) : read? (ofSeconds c.seconds).toList =
    if 0 ≤ c.date.year ∧ c.date.year ≤ 9999 then some (c.date.weekdayOf, c) else none := by
  have hsplit : splitOn ' ' (ofSeconds c.seconds).toList = words c := by
    rw [toList_ofSeconds h]
    exact splitOn_joinWith (List.cons_ne_nil _ _) (blank_not_mem_words c)
  have htwo : ∀ n < 100, readExactly? 2 (Calendar.twoDigits n) = some n :=
    fun n hn => readExactly?_padded (by decide) hn
  have hday := htwo c.date.day (by have := h.date.day_lt; omega)
  have hclock := Calendar.readClock?_written (htwo c.hour (by have := h.hour; omega))
    (htwo c.minute (by have := h.minute; omega)) (htwo c.second (by have := h.second; omega))
  simp only [read?, hsplit, words, weekdayOfMark?_getD (Date.weekdayOf_lt _), hday,
    Calendar.monthOfName?_monthName h.date, readExactly?_yearDigits, hclock, Option.bind_eq_bind,
    Option.bind_some]
  split
  · next hyear =>
    have hcast : ((c.date.year.toNat : Nat) : Int) = c.date.year := Int.toNat_of_nonneg hyear.1
    simp only [Option.bind_some, hcast]
    rfl
  · rfl

theorem length_words (h : c.IsTime) (hyear : 0 ≤ c.date.year ∧ c.date.year ≤ 9999) :
    (joinWith [' '] (words c)).length = 29 := by
  have hweekday : (Date.weekdayNames.getD c.date.weekdayOf "").length = 3 := by
    have hall : ∀ weekday < 7, (Date.weekdayNames.getD weekday "").length = 3 := by decide +kernel
    exact hall _ c.date.weekdayOf_lt
  have hmonth : c.date.monthName.length = 3 := by
    have hall : ∀ month < 13, 1 ≤ month → (Date.monthNames.getD (month - 1) "").length = 3 := by
      decide +kernel
    exact hall _ (Nat.lt_succ_of_le h.date.month_le) h.date.month_pos
  have hdigits : (Calendar.yearDigits c.date.year).length = 4 := by
    rw [Calendar.yearDigits_of_fourDigits hyear]
    exact Decimal.length_padded (by decide) (by show _ < 10000; omega)
  have htwo : ∀ n < 100, (Calendar.twoDigits n).length = 2 :=
    fun n hn => Decimal.length_padded (by decide) hn
  have hday := htwo c.date.day (by have := h.date.day_lt; omega)
  have hhour := htwo c.hour (by have := h.hour; omega)
  have hminute := htwo c.minute (by have := h.minute; omega)
  have hsecond := htwo c.second (by have := h.second; omega)
  simp only [words, joinWith, List.length_append, List.length_cons, List.length_nil, String.length_toList,
    hweekday, hmonth, hdigits, hday, hhour, hminute, hsecond]

theorem inCalendar_seconds (h : c.IsTime) (hyear : 0 ≤ c.date.year ∧ c.date.year ≤ 9999) :
    inCalendar c.seconds = true := by
  have hcount := h.date.count_lt
  have hfirst := Date.daysBeforeYear_le 0 c.date.year hyear.1
  have hlast := Date.daysBeforeYear_le (c.date.year + 1) 10000 (by omega)
  have hepoch : (⟨1970, 1, 1⟩ : Date).count = 719528 := by
    rw [Date.count, Date.daysBeforeYear_eq]
    decide
  have hdays : Date.toDays ⟨firstYear, 1, 1⟩ = -96465292 ∧ Date.toDays ⟨lastYear, 12, 31⟩ = 95026236 := by
    decide +kernel
  obtain ⟨hhour, hminute, hsecond⟩ := And.intro h.hour (And.intro h.minute h.second)
  rw [Date.daysBeforeYear_eq] at hfirst
  rw [Date.daysBeforeYear_eq 10000] at hlast
  rw [inCalendar, hdays.1, hdays.2, CivilTime.seconds, Date.dayNumber, hepoch, Bool.and_eq_true,
    decide_eq_true_eq, decide_eq_true_eq]
  omega

def instant? (text : String) : Option Int := (read? text.toList).map fun told => told.2.seconds

variable {seconds : Int} {nanos : Nat}

theorem exists_ofMoment? (h : c.Shows seconds nanos) (hyear : 0 ≤ c.date.year ∧ c.date.year ≤ 9999) :
    ∃ text, ofMoment? (.ofParts seconds nanos) = some text ∧ (Utf8.octets text).length = 29 ∧
      read? text.toList = some (c.date.weekdayOf, c) := by
  refine ⟨ofSeconds c.seconds, ?_, ?_, ?_⟩
  · rw [ofMoment?, ← h.seconds_eq, if_pos (inCalendar_seconds h.time hyear)]
  · rw [length_octets_of_isPrintable (isPrintable_ofSeconds _), toList_ofSeconds h.time,
      length_words h.time hyear]
  · rw [read?_ofSeconds h.time, if_pos hyear]

/-- A second that is read from the date of a moment is the one that the moment is in. -/
theorem instant?_ofMoment? {text : String} {k : Int}
    (htext : ofMoment? (.ofParts seconds nanos) = some text) (hk : instant? text = some k) :
    k = (seconds * 1000000000 + nanos) / 1000000000 := by
  obtain ⟨c, hc⟩ := CivilTime.Shows.exists_iff_eq seconds nanos
  have hshows := (hc c).2 rfl
  have hseconds := hshows.seconds_eq
  have hsame : text = ofSeconds c.seconds := by
    rw [ofMoment?, ← hseconds] at htext
    split at htext
    · exact (Option.some.inj htext).symm
    · cases htext
  rw [instant?, hsame, read?_ofSeconds hshows.time] at hk
  split at hk
  · have htold : c.seconds = k := Option.some.inj hk
    have hbegun := hshows.begun
    have hended := hshows.ended
    omega
  · cases hk

end HttpDate

namespace Site

variable {t : FileTree} {site : Site} {req : Request}

theorem lastModified_of_locate (hm : req.method = .get ∨ req.method = .head) {r : Response}
    (h : (answer t site req).sent? = some r) (hok : r.status = .ok) {requested : Bytes} {place : Spot}
    (hfile : locate t site.root req.target.path = .ok (.file requested place)) {n : Node}
    (hn : t.node? place.node = some n) {date : String} (hdate : HttpDate.ofMoment? n.modified = some date) :
    r.headers.under "last-modified" = [Utf8.octets date] := by
  obtain ⟨n', date', body, made, hn', hdate', hmade, rfl⟩ := sentFile_of_locate hm h hok hfile
  rw [hn] at hn'
  cases hn'
  rw [hdate] at hdate'
  cases hdate'
  obtain ⟨-, -, hheaders⟩ := Response.file?_eq_some hmade
  rw [Response.under_sent _ _ (by decide) (by decide)]
  exact Headers.values_of_pair hheaders (by simp)

/-- The date that a file is sent with tells the second of its last change. There is one date and time
for each moment. In a year of four digits it is written in 29 octets together with the true day of the
week, what is read from these is that date and time, and a later second is read from a later moment. -/
theorem last_modified_tells_time (seconds : Int) (nanos : Nat) :
    ∃ c : CivilTime, (∀ other : CivilTime, other.Shows seconds nanos ↔ other = c) ∧
      (0 ≤ c.date.year ∧ c.date.year ≤ 9999 →
        ∃ text, HttpDate.ofMoment? (.ofParts seconds nanos) = some text ∧
          (Utf8.octets text).length = 29 ∧
          HttpDate.read? text.toList = some (c.date.weekdayOf, c) ∧
          HttpDate.instant? text = some ((seconds * 1000000000 + nanos) / 1000000000) ∧
          (∀ later laterNanos laterText k,
            HttpDate.ofMoment? (.ofParts later laterNanos) = some laterText →
            HttpDate.instant? laterText = some k →
            (c.seconds < k ↔ (seconds * 1000000000 + nanos) / 1000000000 <
              (later * 1000000000 + laterNanos) / 1000000000)) ∧
          ∀ (t : FileTree) (site : Site) (req : Request) (r : Response) (requested : Bytes) (place : Spot)
            (n : Node), (req.method = .get ∨ req.method = .head) → (answer t site req).sent? = some r →
            r.status = .ok → locate t site.root req.target.path = .ok (.file requested place) →
            t.node? place.node = some n → n.modified = .ofParts seconds nanos →
            r.headers.under "last-modified" = [Utf8.octets text]) := by
  obtain ⟨c, hc⟩ := CivilTime.Shows.exists_iff_eq seconds nanos
  refine ⟨c, hc, fun hyear => ?_⟩
  obtain ⟨text, htext, hlength, hread⟩ := HttpDate.exists_ofMoment? ((hc c).2 rfl) hyear
  have htold : HttpDate.instant? text = some c.seconds := by rw [HttpDate.instant?, hread]; rfl
  have hfloor := HttpDate.instant?_ofMoment? htext htold
  refine ⟨text, htext, hlength, hread, hfloor ▸ htold, ?_, ?_⟩
  · intro later laterNanos laterText k hlater hk
    rw [hfloor, HttpDate.instant?_ofMoment? hlater hk]
  · intro t site req r requested place n hm hr hok hfile hn hmodified
    exact lastModified_of_locate hm hr hok hfile hn (hmodified ▸ htext)

/-- A file that was changed a quarter of a second before a March whose February had no leap day. -/
def centuryTree : FileTree where
  nodes :=
    [⟨.directory [⟨⟨Utf8.octets "site", Eq.refl true⟩, 1⟩], .forDirectories, ⟨2, 0⟩⟩,
      ⟨.directory [⟨⟨Utf8.octets "old", Eq.refl true⟩, 2⟩], .forDirectories, ⟨2, 0⟩⟩,
      ⟨.file (Utf8.octets "x"), .forFiles, .ofParts (-2203891201) 750000000⟩]
  workingDirectory := .root
  sound := by decide

theorem last_modified_tells_time_centuryTree :
    ∃ r, (answer centuryTree ⟨Utf8.octets "/site", .builtIn, "site"⟩ (requestFor .head "/old")).sent? =
        some r ∧
      r.headers.under "last-modified" = [Utf8.octets "Wed, 28 Feb 1900 23:59:59 GMT"] ∧
      HttpDate.instant? "Wed, 28 Feb 1900 23:59:59 GMT" = some (-2203891201) := by
  have hshows : (⟨⟨1900, 2, 28⟩, 23, 59, 59⟩ : CivilTime).Shows (-2203891201) 750000000 := by
    have hseconds : (⟨⟨1900, 2, 28⟩, 23, 59, 59⟩ : CivilTime).seconds = -2203891201 := by
      rw [CivilTime.seconds, Date.dayNumber, Date.count, Date.count, Date.daysBeforeYear_eq,
        Date.daysBeforeYear_eq]
      decide
    refine ⟨⟨⟨by decide, by decide, by decide, by decide⟩, by decide, by decide, by decide⟩, ?_, ?_⟩
    · rw [hseconds]
      decide
    · rw [hseconds]
      decide
  obtain ⟨c, hc, h⟩ := last_modified_tells_time (-2203891201) 750000000
  cases (hc _).1 hshows
  obtain ⟨text, htext, -, -, htold, -, hheader⟩ := h (by decide)
  have hwritten : HttpDate.ofMoment? (.ofParts (-2203891201) 750000000) =
      some "Wed, 28 Feb 1900 23:59:59 GMT" := by
    decide +kernel
  cases hwritten.symm.trans htext
  have hstatus : (answer centuryTree ⟨Utf8.octets "/site", .builtIn, "site"⟩
      (requestFor .head "/old")).sent?.map Response.status = some .ok := by
    decide +kernel
  obtain ⟨r, hr, hok⟩ := Option.map_eq_some_iff.1 hstatus
  refine ⟨r, hr, ?_, htold⟩
  have hfile : locate centuryTree (Utf8.octets "/site") "/old" = .ok (.file (Utf8.octets "/site/old")
      ((Spot.root.into ⟨Utf8.octets "site", Eq.refl true⟩ 1).into ⟨Utf8.octets "old", Eq.refl true⟩ 2)) := by
    decide +kernel
  exact hheader centuryTree ⟨Utf8.octets "/site", .builtIn, "site"⟩ (requestFor .head "/old") r _ _ _
    (Or.inr rfl) hr hok hfile rfl rfl

end Site

end IsolatedSite
