import Mathlib.Control.Monad.Basic
import IsolatedSite.Address.Ip
import IsolatedSite.Connection.Head
import IsolatedSite.Proofs.Decimal
import IsolatedSite.Proofs.General
import IsolatedSite.Proofs.Split
import IsolatedSite.Proofs.Target
import IsolatedSite.Site.Access

namespace IsolatedSite

theorem blank_not_mem_digits (n : Nat) : ' ' ∉ Decimal.digits n :=
  fun h => absurd (Decimal.isDigit_of_mem_digits h) (by decide)

theorem blank_not_mem_padded (width n : Nat) : ' ' ∉ Decimal.padded width n :=
  fun h => absurd (Decimal.isDigit_of_mem_padded h) (by decide)

namespace Stamp

variable (s : Stamp)

def clockText : List Char :=
  Calendar.twoDigits s.face.date.day ++ '/' :: s.face.date.monthName.toList ++
    '/' :: Calendar.yearDigits s.face.date.year ++ ':' :: s.timeDigits

theorem common_eq : s.common = s.clockText ++ ' ' :: s.offsetDigits [] := by
  simp [common, clockText]

theorem blank_not_mem_monthName (date : Date) : ' ' ∉ date.monthName.toList := by
  have hnames : Date.monthNames.all (fun name => !name.toList.contains ' ') = true := by decide
  rw [Date.monthName, List.getD_eq_getElem?_getD]
  cases hi : Date.monthNames[date.month - 1]? with
  | none => exact List.not_mem_nil
  | some name => simpa using List.all_eq_true.1 hnames name (List.mem_of_getElem? hi)

theorem blank_not_mem_yearDigits (year : Int) : ' ' ∉ Calendar.yearDigits year := by
  unfold Calendar.yearDigits
  split
  · simp [blank_not_mem_padded]
  · split
    · simp [blank_not_mem_padded]
    · exact blank_not_mem_padded _ _

theorem blank_not_mem_clockText : ' ' ∉ s.clockText := by
  simp [clockText, timeDigits, Calendar.twoDigits, blank_not_mem_padded, blank_not_mem_monthName,
    blank_not_mem_yearDigits]

theorem blank_not_mem_offsetDigits : ' ' ∉ s.offsetDigits [] := by
  have hsign : ' ' ≠ s.offsetSign := by
    unfold offsetSign
    split <;> decide
  simp [offsetDigits, Calendar.twoDigits, blank_not_mem_padded, hsign]

end Stamp

namespace AccessEntry

/-- No field of the request line has a blank in it, and the path ends where the query begins. -/
structure InWords (e : AccessEntry) : Prop where
  remoteAddress : ' ' ∉ e.remoteAddress.toList
  method : ' ' ∉ e.method.toList
  path : ' ' ∉ e.path.toList
  query : ∀ query, e.query = some query → ' ' ∉ query.toList
  httpVersion : ' ' ∉ e.httpVersion.toList
  unasked : '?' ∉ e.path.toList

structure Agree (e e' : AccessEntry) : Prop where
  remoteAddress : e.remoteAddress = e'.remoteAddress
  time : e.time.common = e'.time.common
  method : e.method = e'.method
  path : e.path = e'.path
  query : e.query = e'.query
  httpVersion : e.httpVersion = e'.httpVersion
  status : e.status = e'.status
  bodyBytes : e.bodyBytes = e'.bodyBytes

def words (e : AccessEntry) : List (List Char) :=
  [
    e.remoteAddress.toList, ['-'], ['-'], '[' :: e.time.clockText, e.time.offsetDigits [] ++ [']'],
    '"' :: e.method.toList, e.target.toList, "HTTP/".toList ++ e.httpVersion.toList ++ ['"'],
    Decimal.digits e.status, Decimal.digits e.bodyBytes]

variable {e e' : AccessEntry}

theorem toList_commonLine (e : AccessEntry) : e.commonLine.toList = joinWith [' '] e.words := by
  simp [commonLine, words, joinWith, Stamp.common_eq, Decimal.text]

theorem blank_not_mem_target (h : e.InWords) : ' ' ∉ e.target.toList := by
  unfold target
  split
  · next query hquery => simp [h.path, h.query query hquery]
  · exact h.path

theorem splitOn_commonLine (h : e.InWords) : splitOn ' ' e.commonLine.toList = e.words := by
  rw [toList_commonLine]
  apply splitOn_joinWith (List.cons_ne_nil _ _)
  simp only [List.forall_mem_cons]
  refine ⟨h.remoteAddress, by decide, by decide, ?_, ?_, ?_, blank_not_mem_target h, ?_,
    blank_not_mem_digits _, blank_not_mem_digits _, ?_⟩
  · simp [e.time.blank_not_mem_clockText]
  · simp [e.time.blank_not_mem_offsetDigits]
  · simp [h.method]
  · simp [h.httpVersion]
  · exact fun _ hmem => absurd hmem List.not_mem_nil

/-- The path and the query come apart at the first question mark, which is there only if there is a
query, be it empty. -/
theorem splitFirst_target (h : '?' ∉ e.path.toList) :
    splitFirst '?' e.target.toList = (e.path.toList, e.query.map String.toList) := by
  unfold target
  split
  · next query hquery =>
      have htext : (e.path ++ "?" ++ query).toList = e.path.toList ++ '?' :: query.toList := by simp
      rw [htext, splitFirst_append_sep h, hquery]
      rfl
  · next hquery =>
      rw [splitFirst_of_not_mem h, hquery]
      rfl

theorem agree_of_words (hpath : '?' ∉ e.path.toList) (hpath' : '?' ∉ e'.path.toList)
    (h : e.words = e'.words) : e.Agree e' := by
  simp only [words, List.cons.injEq, true_and, and_true, List.append_cancel_right_eq,
    List.append_cancel_left_eq] at h
  obtain ⟨hremote, hclock, hoffset, hmethod, htarget, hversion, hstatus, hbytes⟩ := h
  have hsplit := congrArg (splitFirst '?') htarget
  rw [splitFirst_target hpath, splitFirst_target hpath', Prod.mk.injEq] at hsplit
  refine
    { remoteAddress := String.toList_inj.1 hremote
      time := by rw [Stamp.common_eq, Stamp.common_eq, hclock, hoffset]
      method := String.toList_inj.1 hmethod
      path := String.toList_inj.1 hsplit.1
      query := Option.map_injective (fun _ _ => String.toList_inj.1) hsplit.2
      httpVersion := String.toList_inj.1 hversion
      status := Decimal.digits_injective hstatus
      bodyBytes := Decimal.digits_injective hbytes }

end AccessEntry

section Received

theorem exists_of_mem_hexDigits {n : Nat} {c : Char} (h : c ∈ Text.hexDigits n) :
    ∃ d < 16, c = Nat.digitChar d := by
  induction n using Nat.strongRecOn with
  | ind n ih =>
      by_cases hn : n < 16
      · rw [Text.hexDigits, Nat.toDigits_of_lt_base hn] at h
        exact ⟨n, hn, List.mem_singleton.1 h⟩
      · rw [Text.hexDigits, Nat.toDigits_of_base_le (by decide) (by omega), List.mem_append] at h
        rcases h with h | h
        · exact ih (n / 16) (by omega) h
        · exact ⟨n % 16, by omega, List.mem_singleton.1 h⟩

theorem blank_not_mem_hexDigits (n : Nat) : ' ' ∉ Text.hexDigits n := by
  intro h
  obtain ⟨d, hd, hc⟩ := exists_of_mem_hexDigits h
  have hall : ∀ d < 16, ' ' ≠ Nat.digitChar d := by decide
  exact hall d hd hc

namespace IpAddress

theorem blank_not_mem_dotted (octets : List Nat) : ' ' ∉ dotted octets := by
  apply not_mem_joinWith (by decide)
  intro part hpart
  obtain ⟨n, -, rfl⟩ := List.mem_map.1 hpart
  exact blank_not_mem_digits n

theorem blank_not_mem_hexGroups (groups : List Nat) : ' ' ∉ hexGroups groups := by
  apply not_mem_joinWith (by decide)
  intro part hpart
  obtain ⟨n, -, rfl⟩ := List.mem_map.1 hpart
  exact blank_not_mem_hexDigits n

theorem blank_not_mem_text (ip : IpAddress) : ' ' ∉ ip.text.toList := by
  cases ip with
  | v4 octets =>
      rw [text, String.toList_ofList]
      exact blank_not_mem_dotted octets
  | v6 groups =>
      rw [text, String.toList_ofList, v6Digits]
      split
      · simp [blank_not_mem_dotted]
      · dsimp only
        split
        · simp [blank_not_mem_hexGroups]
        · exact blank_not_mem_hexGroups groups

end IpAddress

namespace Request

structure Received (req : Request) : Prop where
  method : ∃ bs, Method.ofOctets? bs = some req.method
  target : ∃ bs, Target.parse bs = .ok req.target

variable {req : Request}

theorem Received.blank_not_mem_method (h : req.Received) : ' ' ∉ req.method.name.toList := by
  obtain ⟨bs, hbs⟩ := h.method
  unfold Method.ofOctets? at hbs
  split at hbs
  · next htoken =>
      rw [← Option.some.inj hbs, asciiText, String.toList_ofList]
      intro hmem
      obtain ⟨b, hb, hc⟩ := List.mem_map.1 hmem
      have hbyte : isTokenByte b = true := List.all_eq_true.1 (Bool.and_eq_true_iff.1 htoken).2 b hb
      have hsmall := b.toNat_lt
      have hnat := congrArg Char.toNat hc
      rw [Utf8.toNat_ofNat (Or.inl (by omega))] at hnat
      have hblank : b = 0x20 := UInt8.toNat_inj.1 hnat
      rw [hblank] at hbyte
      exact absurd hbyte (by decide)
  · cases hbs

theorem blank_not_mem_label (v : Version) : ' ' ∉ v.label.toList := by
  cases v <;> decide

theorem received_of_ofRaw {raw : RawHead} {head : Head} (h : Head.ofRaw raw = .ok head) :
    head.request.Received := by
  by_cases hlength : raw.target.length > 65534
  · simp only [Head.ofRaw, if_pos hlength] at h
    split at h <;> cases h
  · simp only [Head.ofRaw, if_neg hlength] at h
    split at h
    · next method hmethod =>
        obtain ⟨target, htarget, h⟩ := bind_eq_ok_iff.1 h
        obtain ⟨draft, -, h⟩ := bind_eq_ok_iff.1 h
        obtain ⟨framing, -, h⟩ := bind_eq_ok_iff.1 h
        cases h
        refine ⟨⟨_, hmethod⟩, raw.target, ?_⟩
        cases hparse : Target.parse raw.target with
        | error cause =>
            rw [hparse] at htarget
            cases htarget
        | ok found =>
            rw [hparse] at htarget
            cases htarget
            rfl
    · cases h

end Request

/-- What is logged of a received request is in words. -/
theorem inWords_accessEntry {req : Request} (h : req.Received) (peer : IpAddress) (time : Stamp)
    (micros : Nat) (r : Response) : (Site.accessEntry peer.text time micros req r).InWords := by
  obtain ⟨bs, htarget⟩ := h.target
  constructor
  · exact peer.blank_not_mem_text
  · exact h.blank_not_mem_method
  · exact Target.blank_not_mem_path htarget
  · exact fun _ => Target.blank_not_mem_query htarget
  · exact Request.blank_not_mem_label req.version
  · exact Target.question_not_mem_path htarget

end Received

namespace AccessEntry

/-- The entry of every request that is read off a connection is in words, and a common line tells all
that is in it of an entry in words. -/
theorem common_line_tells :
    (∀ (raw : RawHead) (head : Head), Head.ofRaw raw = .ok head →
      ∀ (peer : IpAddress) (time : Stamp) (micros : Nat) (r : Response),
        (Site.accessEntry peer.text time micros head.request r).InWords) ∧
      ∀ e e' : AccessEntry, e.InWords → e'.InWords → e.line .common = e'.line .common →
        e.Agree e' := by
  constructor
  · intro raw head hraw peer time micros r
    exact inWords_accessEntry (Request.received_of_ofRaw hraw) peer time micros r
  · intro e e' he he' hline
    apply agree_of_words he.unasked he'.unasked
    have hcommon : e.commonLine = e'.commonLine := hline
    rw [← splitOn_commonLine he, ← splitOn_commonLine he', hcommon]

def markedEntry (referer : Option String) (micros : Nat) : AccessEntry where
  remoteAddress := "::1"
  time := ⟨⟨1700000000, 5⟩, -1⟩
  method := "GET"
  path := "/a\"]-"
  query := some "?HTTP/1.1\""
  httpVersion := "1.1"
  status := 200
  bodyBytes := 18446744073709551615
  referer := referer
  userAgent := none
  micros := micros

theorem common_line_tells_markedEntry :
    (Head.ofRaw ⟨Utf8.octets "GET", Utf8.octets "/a\"]?b?HTTP/1.1", .v10, []⟩ =
        .ok ⟨⟨.get, ⟨"/a\"]", some "b?HTTP/1.1"⟩, .v10, .empty⟩, .empty, false, false⟩ ∧
      (Site.accessEntry (IpAddress.text (.v6 [0, 0, 0, 0, 0, 0, 0, 1])) ⟨⟨0, 0⟩, 0⟩ 3
        ⟨.get, ⟨"/a\"]", some "b?HTTP/1.1"⟩, .v10, .empty⟩ (.bare .ok)).InWords) ∧
    (markedEntry (some "here") 3).line .common = (markedEntry none 4).line .common ∧
      (markedEntry (some "here") 3).Agree (markedEntry none 4) := by
  have hraw : Head.ofRaw ⟨Utf8.octets "GET", Utf8.octets "/a\"]?b?HTTP/1.1", .v10, []⟩ =
      .ok ⟨⟨.get, ⟨"/a\"]", some "b?HTTP/1.1"⟩, .v10, .empty⟩, .empty, false, false⟩ := by
    decide +kernel
  have hwords : ∀ referer micros, (markedEntry referer micros).InWords := by
    intro referer micros
    constructor <;> simp [markedEntry]
  have hline : (markedEntry (some "here") 3).line .common = (markedEntry none 4).line .common := by
    decide +kernel
  exact ⟨⟨hraw, common_line_tells.1 _ _ hraw _ _ _ _⟩, hline,
    common_line_tells.2 _ _ (hwords _ _) (hwords _ _) hline⟩

end AccessEntry

end IsolatedSite
