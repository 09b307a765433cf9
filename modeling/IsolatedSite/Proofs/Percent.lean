import IsolatedSite.Percent
import IsolatedSite.Path
import IsolatedSite.Proofs.Utf8

namespace IsolatedSite.Percent

theorem decode_cons_of_ne {a : UInt8} (ha : a ≠ percent) (rest : Bytes) :
    decode (a :: rest) = a :: decode rest := by
  match rest with
  | [] => rfl
  | [b] => rfl
  | b :: c :: rest => simp [decode, ha]

theorem decode_percent {b c high low : UInt8} (hb : hexValue? b = some high)
    (hc : hexValue? c = some low) (rest : Bytes) :
    decode (percent :: b :: c :: rest) = (high * 16 + low) :: decode rest := by
  simp [decode, hb, hc]

theorem decode_percent_of_none {b : UInt8} (hb : hexValue? b = none) (rest : Bytes) :
    decode (percent :: b :: rest) = percent :: decode (b :: rest) := by
  cases rest with
  | nil => rfl
  | cons c rest => simp [decode, hb]

theorem decode_percent_of_some_none {b c high : UInt8} (hb : hexValue? b = some high)
    (hc : hexValue? c = none) (rest : Bytes) :
    decode (percent :: b :: c :: rest) = percent :: b :: decode (c :: rest) := by
  simp [decode, hb, hc]

theorem hexValue?_slash : hexValue? Path.slash = none := by decide

theorem decode_slash (bs : Bytes) : decode (Path.slash :: bs) = Path.slash :: decode bs :=
  decode_cons_of_ne (by decide) bs

theorem decode_cons_slash (a : UInt8) (bs : Bytes) :
    decode (a :: Path.slash :: bs) = a :: Path.slash :: decode bs := by
  by_cases ha : a = percent
  · rw [ha, decode_percent_of_none hexValue?_slash, decode_slash]
  · rw [decode_cons_of_ne ha, decode_slash]

theorem decode_append_slash (as bs : Bytes) :
    decode (as ++ Path.slash :: bs) = decode as ++ Path.slash :: decode bs := by
  fun_induction decode as with
  | case1 => exact decode_slash bs
  | case2 a => exact decode_cons_slash a bs
  | case3 a b =>
      change decode (a :: b :: Path.slash :: bs) = a :: b :: Path.slash :: decode bs
      by_cases ha : a = percent
      · cases hb : hexValue? b with
        | none => rw [ha, decode_percent_of_none hb, decode_cons_slash]
        | some high => rw [ha, decode_percent_of_some_none hb hexValue?_slash, decode_slash]
      · rw [decode_cons_of_ne ha, decode_cons_slash]
  | case4 b c rest hb ih =>
      simp only [List.cons_append] at ih ⊢
      rw [decode_percent_of_none hb, ih]
  | case5 b c rest high hb hc ih =>
      simp only [List.cons_append] at ih ⊢
      rw [decode_percent_of_some_none hb hc, ih]
  | case6 b c rest high hb low hc ih =>
      simp only [List.cons_append] at ih ⊢
      rw [decode_percent hb hc, ih]
  | case7 a b c rest ha ih =>
      simp only [List.cons_append] at ih ⊢
      rw [decode_cons_of_ne ha, ih]

theorem hexValue?_upperHex {n : UInt8} (h : n < 16) : hexValue? (upperHex n) = some n := by
  have : ∀ n : Fin 16, hexValue? (upperHex (UInt8.ofNat n.val)) = some (UInt8.ofNat n.val) := by
    decide
  have hn := this ⟨n.toNat, h⟩
  simpa using hn

theorem decode_encodeByte (b : UInt8) (rest : Bytes) :
    decode (encodeByte b ++ rest) = b :: decode rest := by
  by_cases hb : isUnreserved b = true
  · have hne : b ≠ percent := by
      rintro rfl
      revert hb
      decide
    simp [encodeByte, hb, decode_cons_of_ne hne]
  · have hlt : b.toNat < 256 := b.toNat_lt
    have hhigh : b / 16 < 16 := by
      rw [UInt8.lt_iff_toNat_lt, UInt8.toNat_div]
      exact Nat.div_lt_of_lt_mul hlt
    have hlow : b % 16 < 16 := by
      rw [UInt8.lt_iff_toNat_lt, UInt8.toNat_mod]
      exact Nat.mod_lt _ (by decide)
    have hsum : b / 16 * 16 + b % 16 = b := by
      apply UInt8.toNat_inj.1
      rw [UInt8.toNat_add, UInt8.toNat_mul, UInt8.toNat_div, UInt8.toNat_mod]
      change (b.toNat / 16 * 16 % 256 + b.toNat % 16) % 256 = b.toNat
      omega
    simp [encodeByte, hb, decode_percent (hexValue?_upperHex hhigh) (hexValue?_upperHex hlow), hsum]

theorem decode_encode (bs : Bytes) (rest : Bytes) : decode (encode bs ++ rest) = bs ++ decode rest := by
  induction bs with
  | nil => rfl
  | cons b bs ih =>
      rw [encode, List.flatMap_cons, ← encode, List.append_assoc, decode_encodeByte, ih]
      rfl

theorem isAscii_encodeByte (b : UInt8) : ∀ c ∈ encodeByte b, c.toNat < 0x80 ∧ c ≠ Path.slash := by
  have h : ∀ n : Fin 256, (encodeByte (UInt8.ofNat n.val)).all
      (fun c => decide (c.toNat < 0x80 ∧ c ≠ Path.slash)) = true := by
    decide +kernel
  have hb := h ⟨b.toNat, b.toNat_lt⟩
  rw [UInt8.ofNat_toNat, List.all_eq_true] at hb
  intro c hc
  exact of_decide_eq_true (hb c hc)

theorem mem_encode {bs : Bytes} {c : UInt8} (h : c ∈ encode bs) : c.toNat < 0x80 ∧ c ≠ Path.slash := by
  obtain ⟨b, _, hc⟩ := List.mem_flatMap.1 h
  exact isAscii_encodeByte b c hc

theorem octets_encodeText (s : String) : Utf8.octets (encodeText s) = encode (Utf8.octets s) := by
  rw [encodeText, Utf8.octets_ofList, Utf8.encode, List.flatMap_map]
  have h : ∀ bs : Bytes, (∀ b ∈ bs, b.toNat < 0x80) →
      bs.flatMap (fun b => Utf8.encodeChar (Char.ofNat b.toNat)) = bs := by
    intro bs
    induction bs with
    | nil => intro _; rfl
    | cons b bs ih =>
        intro hb
        rw [List.flatMap_cons, Utf8.encodeChar_one (hb b List.mem_cons_self),
          ih (fun c hc => hb c (List.mem_cons_of_mem _ hc))]
        rfl
  exact h _ (fun b hb => (mem_encode hb).1)

theorem encode_injective {as bs : Bytes} (h : encode as = encode bs) : as = bs := by
  have hdecode : ∀ bs, decode (encode bs) = bs := by
    intro bs
    simpa [decode] using decode_encode bs []
  rw [← hdecode as, h, hdecode]

theorem encodeText_injective {s t : String} (h : encodeText s = encodeText t) : s = t := by
  apply Utf8.octets_injective
  apply encode_injective
  rw [← octets_encodeText, h, octets_encodeText]

theorem slash_not_mem_encodeText (s : String) : '/' ∉ (encodeText s).toList := by
  rw [encodeText, String.toList_ofList]
  intro h
  obtain ⟨b, hb, hchar⟩ := List.mem_map.1 h
  obtain ⟨hsmall, hslash⟩ := mem_encode hb
  apply hslash
  have hnat := congrArg Char.toNat hchar
  rw [Utf8.toNat_ofNat (by omega)] at hnat
  exact UInt8.toNat_inj.1 hnat

end IsolatedSite.Percent
