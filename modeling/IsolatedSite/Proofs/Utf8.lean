import IsolatedSite.Text.Utf8

namespace IsolatedSite.Utf8

theorem octets_append (s t : String) : octets (s ++ t) = octets s ++ octets t := by
  simp [octets, encode]

theorem octets_ofList (cs : List Char) : octets (String.ofList cs) = encode cs := by
  simp [octets]

theorem toNat_ofNat {n : Nat} (h : n < 0xD800 ∨ 0xDFFF < n ∧ n < 0x110000) :
    (Char.ofNat n).toNat = n := by
  have hv : n.isValidChar := h
  rw [Char.ofNat, dif_pos hv]
  rfl

theorem decodeFrom_some {p : Pending} {bs : Bytes} {cs : List Char}
    (h : decodeFrom (some p) bs = some cs) :
    ∃ b rest, bs = b :: rest ∧ p.low ≤ b.toNat ∧ b.toNat ≤ p.high ∧
      if p.owed ≤ 1 then
        ∃ cs', cs = Char.ofNat (p.value * 0x40 + b.toNat % 0x40) :: cs' ∧
          decodeFrom none rest = some cs'
      else
        decodeFrom (some ⟨p.value * 0x40 + b.toNat % 0x40, p.owed - 1, 0x80, 0xBF⟩) rest =
          some cs := by
  cases bs with
  | nil => simp [decodeFrom] at h
  | cons b rest =>
      refine ⟨b, rest, rfl, ?_⟩
      by_cases hb : p.low ≤ b.toNat ∧ b.toNat ≤ p.high
      · refine ⟨hb.1, hb.2, ?_⟩
        by_cases ho : p.owed ≤ 1
        · rw [decodeFrom] at h
          simp only [next, Pending.next, hb, ho, and_self, if_true, Option.map_eq_some_iff] at h ⊢
          obtain ⟨cs', hr, rfl⟩ := h
          exact ⟨cs', rfl, hr⟩
        · rw [decodeFrom] at h
          simpa only [next, Pending.next, hb, ho, and_self, if_true, if_false] using h
      · rw [decodeFrom] at h
        simp [next, Pending.next, hb] at h

theorem decodeFrom_append {q : Option Pending} {as bs : Bytes} {cs : List Char}
    (h : decodeFrom q as = some cs) :
    decodeFrom q (as ++ bs) = (decodeFrom none bs).map (cs ++ ·) := by
  induction as generalizing q cs with
  | nil =>
      cases q with
      | none => simp_all [decodeFrom]
      | some p => simp [decodeFrom] at h
  | cons a as ih =>
      rw [List.cons_append, decodeFrom]
      rw [decodeFrom] at h
      cases hn : next q a with
      | whole c =>
          simp only [hn, Option.map_eq_some_iff] at h ⊢
          obtain ⟨cs', hr, rfl⟩ := h
          simp [ih hr, Function.comp_def]
      | more p =>
          simp only [hn] at h ⊢
          exact ih h
      | refused => simp [hn] at h

theorem decode?_append {as bs : Bytes} {cs ds : List Char} (ha : decode? as = some cs)
    (hb : decode? bs = some ds) : decode? (as ++ bs) = some (cs ++ ds) := by
  rw [decode?, decodeFrom_append ha]
  simpa [decode?] using hb

theorem lossyFrom_of_decodeFrom {q : Option Pending} {bs : Bytes} {cs : List Char}
    (h : decodeFrom q bs = some cs) : lossyFrom q bs = cs := by
  induction bs generalizing q cs with
  | nil => cases q <;> simp_all [decodeFrom, lossyFrom]
  | cons b bs ih =>
      rw [decodeFrom] at h
      cases q with
      | none =>
          cases hn : lead b with
          | whole c =>
              simp only [next, hn, Option.map_eq_some_iff] at h
              obtain ⟨cs', hr, rfl⟩ := h
              rw [lossyFrom, hn]
              simp [ih hr]
          | more p =>
              simp only [next, hn] at h
              rw [lossyFrom, hn]
              exact ih h
          | refused => simp [next, hn] at h
      | some p =>
          cases hn : p.next b with
          | whole c =>
              simp only [next, hn, Option.map_eq_some_iff] at h
              obtain ⟨cs', hr, rfl⟩ := h
              rw [lossyFrom, hn]
              simp [ih hr]
          | more p' =>
              simp only [next, hn] at h
              rw [lossyFrom, hn]
              exact ih h
          | refused => simp [next, hn] at h

theorem toUInt8_eq {n : Nat} {b : UInt8} (h : n = b.toNat) : n.toUInt8 = b := by
  subst h; simp

theorem encodeChar_one {a : UInt8} (ha : a.toNat < 0x80) :
    encodeChar (Char.ofNat a.toNat) = [a] := by
  have hn := toNat_ofNat (n := a.toNat) (by omega)
  rw [encodeChar, hn, if_pos ha, toUInt8_eq rfl]

theorem encodeChar_two {a b : UInt8} (ha : 0xC2 ≤ a.toNat) (ha' : a.toNat < 0xE0)
    (hb : 0x80 ≤ b.toNat) (hb' : b.toNat ≤ 0xBF) :
    encodeChar (Char.ofNat ((a.toNat - 0xC0) * 0x40 + b.toNat % 0x40)) = [a, b] := by
  have hn := toNat_ofNat (n := (a.toNat - 0xC0) * 0x40 + b.toNat % 0x40) (by omega)
  rw [encodeChar, hn]
  rw [if_neg (by omega), if_pos (by omega), toUInt8_eq (b := a) (by omega),
    toUInt8_eq (b := b) (by omega)]

theorem encodeChar_three {v : Nat} {a b c : UInt8} (ha : a.toNat = 0xE0 + v / 0x40)
    (hb : b.toNat = 0x80 + v % 0x40) (hv : 0x20 ≤ v ∧ v < 0x360 ∨ 0x380 ≤ v ∧ v < 0x400)
    (hc : 0x80 ≤ c.toNat) (hc' : c.toNat ≤ 0xBF) :
    encodeChar (Char.ofNat (v * 0x40 + c.toNat % 0x40)) = [a, b, c] := by
  have hn := toNat_ofNat (n := v * 0x40 + c.toNat % 0x40) (by omega)
  rw [encodeChar, hn]
  rw [if_neg (by omega), if_neg (by omega), if_pos (by omega), toUInt8_eq (b := a) (by omega),
    toUInt8_eq (b := b) (by omega), toUInt8_eq (b := c) (by omega)]

theorem encodeChar_four {v : Nat} {a b c d : UInt8} (ha : a.toNat = 0xF0 + v / 0x1000)
    (hb : b.toNat = 0x80 + v / 0x40 % 0x40) (hc : c.toNat = 0x80 + v % 0x40)
    (hv : 0x400 ≤ v ∧ v < 0x4400) (hd : 0x80 ≤ d.toNat) (hd' : d.toNat ≤ 0xBF) :
    encodeChar (Char.ofNat (v * 0x40 + d.toNat % 0x40)) = [a, b, c, d] := by
  have hn := toNat_ofNat (n := v * 0x40 + d.toNat % 0x40) (by omega)
  rw [encodeChar, hn]
  rw [if_neg (by omega), if_neg (by omega), if_neg (by omega), toUInt8_eq (b := a) (by omega),
    toUInt8_eq (b := b) (by omega), toUInt8_eq (b := c) (by omega), toUInt8_eq (b := d) (by omega)]

structure Promise (a : UInt8) (p : Pending) : Prop where
  tail : 0x80 ≤ p.low ∧ p.high ≤ 0xBF
  head : p.owed = 1 ∧ p.value = a.toNat - 0xC0 ∧ 0xC2 ≤ a.toNat ∧ a.toNat < 0xE0 ∨
    p.owed = 2 ∧ p.value = a.toNat - 0xE0 ∧ 0xE0 ≤ a.toNat ∧ a.toNat < 0xF0 ∧
      (a.toNat = 0xE0 → 0xA0 ≤ p.low) ∧ (a.toNat = 0xED → p.high ≤ 0x9F) ∨
    p.owed = 3 ∧ p.value = a.toNat - 0xF0 ∧ 0xF0 ≤ a.toNat ∧ a.toNat ≤ 0xF4 ∧
      (a.toNat = 0xF0 → 0x90 ≤ p.low) ∧ (a.toNat = 0xF4 → p.high ≤ 0x8F)

theorem promise_of_lead {a : UInt8} {p : Pending} (h : lead a = .more p) : Promise a p := by
  simp only [lead] at h
  split at h
  · simp at h
  · repeat' split at h
    all_goals simp only [Reading.more.injEq, reduceCtorEq] at h
    all_goals subst h
    all_goals exact ⟨by simp, by simp; omega⟩

theorem of_lead_whole {a : UInt8} {c : Char} (h : lead a = .whole c) :
    a.toNat < 0x80 ∧ c = Char.ofNat a.toNat := by
  simp only [lead] at h
  split at h
  · next ha => exact ⟨ha, (Reading.whole.inj h).symm⟩
  · repeat' split at h
    all_goals simp at h

theorem decode?_cons {a : UInt8} {bs : Bytes} {cs : List Char} (h : decode? (a :: bs) = some cs) :
    ∃ c rest cs', a :: bs = encodeChar c ++ rest ∧ rest.length ≤ bs.length ∧ cs = c :: cs' ∧
      decode? rest = some cs' := by
  rw [decode?, decodeFrom] at h
  cases hl : lead a with
  | refused => simp [next, hl] at h
  | whole c =>
      simp only [next, hl, Option.map_eq_some_iff] at h
      obtain ⟨cs', hr, rfl⟩ := h
      obtain ⟨ha, rfl⟩ := of_lead_whole hl
      exact ⟨_, bs, cs', by rw [encodeChar_one ha]; rfl, Nat.le_refl _, rfl, hr⟩
  | more p =>
      simp only [next, hl] at h
      obtain ⟨⟨hlow, hhigh⟩, hp⟩ := promise_of_lead hl
      obtain ⟨b, rest, rfl, hb, hb', h⟩ := decodeFrom_some h
      rcases hp with ⟨ho, hv, ha, ha'⟩ | ⟨ho, hv, ha, ha', he, hd⟩ | ⟨ho, hv, ha, ha', he, hd⟩
      · rw [if_pos (by omega)] at h
        obtain ⟨cs', rfl, hr⟩ := h
        refine ⟨_, rest, cs', ?_, by simp, rfl, hr⟩
        rw [hv, encodeChar_two ha ha' (by omega) (by omega)]
        rfl
      · rw [if_neg (by omega)] at h
        obtain ⟨c, rest, rfl, hc, hc', h⟩ := decodeFrom_some h
        rw [if_pos (by simp [ho])] at h
        obtain ⟨cs', rfl, hr⟩ := h
        refine ⟨_, rest, cs', ?_, by simp; omega, rfl, hr⟩
        dsimp only at hc hc' ⊢
        rw [encodeChar_three (a := a) (b := b) (by omega) (by omega) (by omega) hc hc']
        rfl
      · rw [if_neg (by omega)] at h
        obtain ⟨c, rest, rfl, hc, hc', h⟩ := decodeFrom_some h
        rw [if_neg (by simp [ho])] at h
        obtain ⟨d, rest, rfl, hd1, hd2, h⟩ := decodeFrom_some h
        rw [if_pos (by simp [ho])] at h
        obtain ⟨cs', rfl, hr⟩ := h
        refine ⟨_, rest, cs', ?_, by simp; omega, rfl, hr⟩
        dsimp only at hc hc' hd1 hd2 ⊢
        rw [encodeChar_four (a := a) (b := b) (c := c) (by omega) (by omega) (by omega) (by omega)
          hd1 hd2]
        rfl

/-- What is accepted is the encoding of what it is read as. -/
theorem encode_of_decode? {bs : Bytes} {cs : List Char} (h : decode? bs = some cs) :
    encode cs = bs := by
  induction hn : bs.length using Nat.strongRecOn generalizing bs cs with
  | ind n ih =>
      cases bs with
      | nil => simp_all [decode?, decodeFrom, encode]
      | cons a bs =>
          obtain ⟨c, rest, cs', hsplit, hlen, rfl, hr⟩ := decode?_cons h
          have hrest := ih rest.length (by rw [← hn, List.length_cons]; omega) hr rfl
          rw [hsplit, encode, List.flatMap_cons, ← encode, hrest]

theorem octets_of_text? {bs : Bytes} {s : String} (h : text? bs = some s) : octets s = bs := by
  obtain ⟨cs, hcs, rfl⟩ := Option.map_eq_some_iff.1 h
  rw [octets_ofList, encode_of_decode? hcs]

theorem low_of_next_more {q : Option Pending} {a : UInt8} {p : Pending} (h : next q a = .more p) :
    0x80 ≤ p.low := by
  cases q with
  | none => exact (promise_of_lead h).tail.1
  | some q =>
      simp only [next, Pending.next] at h
      split at h
      · split at h
        · cases h
        · cases h
          exact Nat.le_refl _
      · cases h

theorem decodeFrom_append_eq_none {q : Option Pending} {bs : Bytes} {b : UInt8}
    (hq : ∀ p, q = some p → 0x80 ≤ p.low) (hb : b.toNat < 0x80) (h : decodeFrom q bs = none) :
    decodeFrom q (bs ++ [b]) = none := by
  induction bs generalizing q with
  | nil =>
      cases q with
      | none => cases h
      | some p =>
          have hlow := hq p rfl
          have hnext : next (some p) b = .refused := if_neg (by omega)
          rw [List.nil_append, decodeFrom, hnext]
  | cons a bs ih =>
      rw [decodeFrom] at h
      rw [List.cons_append, decodeFrom]
      cases hn : next q a with
      | whole c =>
          simp only [hn, Option.map_eq_none_iff] at h ⊢
          exact ih nofun h
      | more p =>
          simp only [hn] at h ⊢
          apply ih _ h
          intro p' hp'
          cases hp'
          exact low_of_next_more hn
      | refused => rfl

theorem decode?_append_eq_none {bs : Bytes} {b : UInt8} (hb : b.toNat < 0x80)
    (h : decode? bs = none) : decode? (bs ++ [b]) = none :=
  decodeFrom_append_eq_none nofun hb h

theorem octets_lossyText {bs : Bytes} {cs : List Char} (h : decode? bs = some cs) :
    octets (lossyText bs) = bs := by
  rw [lossyText, octets_ofList, lossy, lossyFrom_of_decodeFrom h, encode_of_decode? h]

theorem toNat_toUInt8 {n : Nat} (h : n < 0x100) : n.toUInt8.toNat = n := by
  simpa using h

theorem decodeFrom_of_whole {q : Option Pending} {b : UInt8} {c : Char} (h : next q b = .whole c)
    (bs : Bytes) : decodeFrom q (b :: bs) = (decodeFrom none bs).map (c :: ·) := by
  rw [decodeFrom, h]

theorem decodeFrom_of_more {q : Option Pending} {b : UInt8} {p : Pending} (h : next q b = .more p)
    (bs : Bytes) : decodeFrom q (b :: bs) = decodeFrom (some p) bs := by
  rw [decodeFrom, h]

theorem next_of_owed {value owed low high v : Nat} (ho : 1 < owed) (hv : v < 0x40)
    (hlow : low ≤ 0x80 + v) (hhigh : 0x80 + v ≤ high) :
    next (some ⟨value, owed, low, high⟩) (0x80 + v).toUInt8 =
      .more ⟨value * 0x40 + v, owed - 1, 0x80, 0xBF⟩ := by
  have hb : (0x80 + v).toUInt8.toNat = 0x80 + v := toNat_toUInt8 (by omega)
  have hmod : (0x80 + v) % 0x40 = v := by omega
  simp only [next, Pending.next, hb, hlow, hhigh, and_self, if_true, hmod, if_neg (Nat.not_le.2 ho)]

theorem next_of_last {value low high v : Nat} (hv : v < 0x40) (hlow : low ≤ 0x80 + v)
    (hhigh : 0x80 + v ≤ high) :
    next (some ⟨value, 1, low, high⟩) (0x80 + v).toUInt8 = .whole (Char.ofNat (value * 0x40 + v)) := by
  have hb : (0x80 + v).toUInt8.toNat = 0x80 + v := toNat_toUInt8 (by omega)
  have hmod : (0x80 + v) % 0x40 = v := by omega
  simp only [next, Pending.next, hb, hlow, hhigh, and_self, if_true, hmod, Nat.le_refl]

theorem next_of_ascii {n : Nat} (hn : n < 0x80) : next none n.toUInt8 = .whole (Char.ofNat n) := by
  simp only [next, lead, toNat_toUInt8 (show n < 0x100 by omega), hn, if_true]

theorem next_of_lead_two {v : Nat} (hlow : 2 ≤ v) (hv : v < 0x20) :
    next none (0xC0 + v).toUInt8 = .more ⟨v, 1, 0x80, 0xBF⟩ := by
  have hsub : 0xC0 + v - 0xC0 = v := by omega
  simp only [next, lead, toNat_toUInt8 (show 0xC0 + v < 0x100 by omega)]
  rw [if_neg (by omega), if_neg (by omega), if_pos (by omega), hsub]

theorem next_of_lead_three {v : Nat} (hv : v < 0x10) :
    ∃ low high, next none (0xE0 + v).toUInt8 = .more ⟨v, 2, low, high⟩ ∧
      low ≤ (if v = 0 then 0xA0 else 0x80) ∧ (if v = 0xD then 0x9F else 0xBF) ≤ high := by
  have hsub : 0xE0 + v - 0xE0 = v := by omega
  simp only [next, lead, toNat_toUInt8 (show 0xE0 + v < 0x100 by omega)]
  rw [if_neg (by omega), if_neg (by omega), if_neg (by omega)]
  by_cases hzero : v = 0
  · subst hzero
    exact ⟨0xA0, 0xBF, rfl, Nat.le_refl _, Nat.le_refl _⟩
  · by_cases hd : v = 0xD
    · subst hd
      exact ⟨0x80, 0x9F, rfl, Nat.le_refl _, Nat.le_refl _⟩
    · rw [if_neg (by omega), if_neg (by omega), if_pos (by omega), hsub, if_neg hzero, if_neg hd]
      exact ⟨0x80, 0xBF, rfl, Nat.le_refl _, Nat.le_refl _⟩

theorem next_of_lead_four {v : Nat} (hv : v ≤ 4) :
    ∃ low high, next none (0xF0 + v).toUInt8 = .more ⟨v, 3, low, high⟩ ∧
      low ≤ (if v = 0 then 0x90 else 0x80) ∧ (if v = 4 then 0x8F else 0xBF) ≤ high := by
  rcases (by omega : v = 0 ∨ v = 1 ∨ v = 2 ∨ v = 3 ∨ v = 4) with rfl | rfl | rfl | rfl | rfl
  · exact ⟨0x90, 0xBF, rfl, Nat.le_refl _, Nat.le_refl _⟩
  · exact ⟨0x80, 0xBF, rfl, Nat.le_refl _, Nat.le_refl _⟩
  · exact ⟨0x80, 0xBF, rfl, Nat.le_refl _, Nat.le_refl _⟩
  · exact ⟨0x80, 0xBF, rfl, Nat.le_refl _, Nat.le_refl _⟩
  · exact ⟨0x80, 0x8F, rfl, Nat.le_refl _, Nat.le_refl _⟩

theorem decode?_encodeChar_append (c : Char) (bs : Bytes) :
    decode? (encodeChar c ++ bs) = (decode? bs).map (c :: ·) := by
  have hc : Char.ofNat c.toNat = c := Char.ofNat_toNat c
  have hvalid : c.toNat < 0xD800 ∨ 0xDFFF < c.toNat ∧ c.toNat < 0x110000 := c.valid
  simp only [decode?, encodeChar]
  generalize c.toNat = n at hc hvalid
  by_cases h₁ : n < 0x80
  · rw [if_pos h₁, List.singleton_append, decodeFrom_of_whole (next_of_ascii h₁), hc]
  by_cases h₂ : n < 0x800
  · have hvalue : n / 0x40 * 0x40 + n % 0x40 = n := by omega
    rw [if_neg h₁, if_pos h₂, List.cons_append, List.singleton_append,
      decodeFrom_of_more (next_of_lead_two (by omega) (by omega)),
      decodeFrom_of_whole (next_of_last (by omega) (by omega) (by omega)), hvalue, hc]
  by_cases h₃ : n < 0x10000
  · obtain ⟨low, high, hlead, hlow, hhigh⟩ := next_of_lead_three (v := n / 0x1000) (by omega)
    have hvalue : (n / 0x1000 * 0x40 + n / 0x40 % 0x40) * 0x40 + n % 0x40 = n := by omega
    rw [if_neg h₁, if_neg h₂, if_pos h₃, List.cons_append, List.cons_append, List.singleton_append,
      decodeFrom_of_more hlead,
      decodeFrom_of_more (next_of_owed (by omega) (by omega) (by split at hlow <;> omega)
        (by split at hhigh <;> omega)),
      decodeFrom_of_whole (next_of_last (by omega) (by omega) (by omega)), hvalue, hc]
  · obtain ⟨low, high, hlead, hlow, hhigh⟩ := next_of_lead_four (v := n / 0x40000) (by omega)
    have hvalue : ((n / 0x40000 * 0x40 + n / 0x1000 % 0x40) * 0x40 + n / 0x40 % 0x40) * 0x40 +
        n % 0x40 = n := by omega
    rw [if_neg h₁, if_neg h₂, if_neg h₃, List.cons_append, List.cons_append, List.cons_append,
      List.singleton_append, decodeFrom_of_more hlead,
      decodeFrom_of_more (next_of_owed (by omega) (by omega) (by split at hlow <;> omega)
        (by split at hhigh <;> omega)),
      decodeFrom_of_more (next_of_owed (by omega) (by omega) (by omega) (by omega)),
      decodeFrom_of_whole (next_of_last (by omega) (by omega) (by omega)), hvalue, hc]

theorem decode?_encode (cs : List Char) : decode? (encode cs) = some cs := by
  induction cs with
  | nil => rfl
  | cons c cs ih =>
      rw [encode, List.flatMap_cons, ← encode, decode?_encodeChar_append, ih]
      rfl

theorem decode?_eq_none_iff {bs : Bytes} : decode? bs = none ↔ ∀ cs, encode cs ≠ bs := by
  constructor
  · rintro h cs rfl
    rw [decode?_encode] at h
    cases h
  · intro h
    cases hd : decode? bs with
    | none => rfl
    | some cs => exact absurd (encode_of_decode? hd) (h cs)

theorem encode_injective {cs ds : List Char} (h : encode cs = encode ds) : cs = ds := by
  have hdecode := congrArg decode? h
  rwa [decode?_encode, decode?_encode, Option.some.injEq] at hdecode

theorem octets_injective {s t : String} (h : octets s = octets t) : s = t :=
  String.ext (encode_injective h)

theorem text?_octets (s : String) : text? (octets s) = some s := by
  rw [text?, octets, decode?_encode, Option.map_some, String.ofList_toList]

/-- An octet below 0x80 is a character of its own and no part of another one. -/
theorem eq_of_mem_encodeChar {b : UInt8} {c : Char} (hb : b.toNat < 0x80) (h : b ∈ encodeChar c) :
    c = Char.ofNat b.toNat := by
  have hvalid : c.toNat < 0xD800 ∨ 0xDFFF < c.toNat ∧ c.toNat < 0x110000 := c.valid
  by_cases hc : c.toNat < 0x80
  · rw [encodeChar, if_pos hc, List.mem_singleton] at h
    rw [h, toNat_toUInt8 (by omega), Char.ofNat_toNat]
  · have hhigh : ∀ n, 0x80 ≤ n → n < 0x100 → b ≠ n.toUInt8 := by
      rintro n hlow hn rfl
      rw [toNat_toUInt8 hn] at hb
      omega
    rw [encodeChar, if_neg hc] at h
    repeat' split at h
    all_goals simp only [List.mem_cons, List.not_mem_nil, or_false] at h
    · rcases h with h | h <;> exact absurd h (hhigh _ (by omega) (by omega))
    · rcases h with h | h | h <;> exact absurd h (hhigh _ (by omega) (by omega))
    · rcases h with h | h | h | h <;> exact absurd h (hhigh _ (by omega) (by omega))

theorem not_mem_encode {b : UInt8} (hb : b.toNat < 0x80) {cs : List Char}
    (h : Char.ofNat b.toNat ∉ cs) : b ∉ encode cs := by
  intro hmem
  obtain ⟨c, hc, hbc⟩ := List.mem_flatMap.1 hmem
  rw [eq_of_mem_encodeChar hb hbc] at hc
  exact h hc

end IsolatedSite.Utf8
