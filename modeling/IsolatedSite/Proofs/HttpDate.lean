import IsolatedSite.Calendar.HttpDate
import IsolatedSite.Headers
import IsolatedSite.Proofs.Clock

namespace IsolatedSite

def isPrintable (c : Char) : Bool := decide (0x20 ≤ c.toNat ∧ c.toNat < 0x7F)

theorem isValueByte_of_isPrintable {c : Char} (h : isPrintable c = true) :
    ∀ b ∈ Utf8.encodeChar c, Header.isValueByte b = true := by
  obtain ⟨hlow, hhigh⟩ := of_decide_eq_true h
  have hsmall : c.toNat < 0x80 := by omega
  intro b hb
  rw [Utf8.encodeChar, if_pos hsmall, List.mem_singleton] at hb
  have hnat : b.toNat = c.toNat := by
    rw [hb]
    exact Nat.mod_eq_of_lt (by omega)
  have hle : (0x20 : UInt8) ≤ b := by
    rw [UInt8.le_iff_toNat_le, hnat]
    exact hlow
  have hne : b ≠ 0x7F := by
    rintro rfl
    have : c.toNat = 0x7F := hnat.symm
    omega
  simp [Header.isValueByte, hle, hne]

theorem isValue_of_isPrintable {s : String} (h : s.toList.all isPrintable = true) :
    Header.isValue (Utf8.octets s) = true := by
  rw [Header.isValue, List.all_eq_true]
  intro b hb
  obtain ⟨c, hc, hb⟩ := List.mem_flatMap.1 hb
  exact isValueByte_of_isPrintable (List.all_eq_true.1 h c hc) b hb

theorem length_octets_of_isPrintable {s : String} (h : s.toList.all isPrintable = true) :
    (Utf8.octets s).length = s.toList.length := by
  have hone : ∀ c ∈ s.toList, (Utf8.encodeChar c).length = 1 := by
    intro c hc
    obtain ⟨-, hhigh⟩ := of_decide_eq_true (List.all_eq_true.1 h c hc)
    rw [Utf8.encodeChar, if_pos (by omega), List.length_singleton]
  rw [Utf8.octets, Utf8.encode, List.length_flatMap, List.map_congr_left hone, List.map_const',
    List.sum_replicate_nat, Nat.mul_one]

@[simp] theorem isPrintable_padded (width n : Nat) :
    (Decimal.padded width n).all isPrintable = true := by
  rw [List.all_eq_true]
  intro c hc
  rcases List.mem_append.1 hc with hc | hc
  · rw [(List.mem_replicate.1 hc).2]
    rfl
  · have hdigit := Nat.isDigit_of_mem_toDigits (by decide) (by decide) hc
    simp only [Char.isDigit, Bool.and_eq_true, decide_eq_true_eq] at hdigit
    obtain ⟨hlow, hhigh⟩ := hdigit
    have hlow' : 48 ≤ c.toNat := hlow
    have hhigh' : c.toNat ≤ 57 := hhigh
    exact decide_eq_true ⟨by omega, by omega⟩

@[simp] theorem isPrintable_yearDigits (year : Int) :
    (Calendar.yearDigits year).all isPrintable = true := by
  have hminus : isPrintable '-' = true := rfl
  have hplus : isPrintable '+' = true := rfl
  unfold Calendar.yearDigits
  split
  · simp [hminus]
  · split
    · simp [hplus]
    · simp

namespace HttpDate

theorem isPrintable_ofSeconds (seconds : Int) : (ofSeconds seconds).toList.all isPrintable = true := by
  have hcomma : ", ".toList.all isPrintable = true := rfl
  have hzone : " GMT".toList.all isPrintable = true := rfl
  have hblank : isPrintable ' ' = true := rfl
  have hcolon : isPrintable ':' = true := rfl
  have hweekday : ∀ days, (Date.weekdayName days).toList.all isPrintable = true :=
    fun days => all_getD rfl _
  have hmonth : ∀ date : Date, date.monthName.toList.all isPrintable = true :=
    fun date => all_getD rfl _
  unfold ofSeconds
  rw [String.toList_ofList]
  simp only [List.all_append, List.all_cons, Calendar.twoDigits, hcomma, hzone, hblank, hcolon,
    hweekday, hmonth, isPrintable_padded, isPrintable_yearDigits, Bool.and_self]

/-- Every date is a header value. -/
theorem isValue_of_ofMoment? {m : Moment} {date : String} (h : ofMoment? m = some date) :
    Header.isValue (Utf8.octets date) = true := by
  unfold ofMoment? at h
  split at h
  · rw [← Option.some.inj h]
    exact isValue_of_isPrintable (isPrintable_ofSeconds m.seconds)
  · cases h

end HttpDate

end IsolatedSite
