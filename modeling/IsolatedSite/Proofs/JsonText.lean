import IsolatedSite.Json.Read
import IsolatedSite.Proofs.Decimal

namespace IsolatedSite

/-- A numeral that can be written: there are digits in front of the point, a zero stands alone there,
and nothing but digits follows the point. -/
structure Numeral.Sound (n : Numeral) : Prop where
  ne_nil : n.whole ≠ []
  whole : ∀ c ∈ n.whole, Decimal.isDigit c = true
  zero : n.whole.head? = some '0' → n.whole = ['0']
  fraction : ∀ c ∈ n.fraction, Decimal.isDigit c = true

theorem Numeral.sound_ofNat (n : Nat) : (ofNat n).Sound where
  ne_nil := Decimal.digits_ne_nil n
  whole := fun _ => Decimal.isDigit_of_mem_digits
  zero := Decimal.digits_of_head?_eq_zero
  fraction := fun _ h => absurd h List.not_mem_nil

namespace Json

variable {rest : Rest}

section Strings

theorem hexValue?_digitChar : ∀ d < 16, Text.hexValue? (Nat.digitChar d) = some d := by decide

theorem readHex4_padded {n : Nat} (h : n < 0x20) (rest : Rest) :
    readHex4 (List.replicate (4 - (Text.hexDigits n).length) '0' ++ Text.hexDigits n ++ rest) =
      some (n, rest) := by
  have hdigits : ∀ m < 0x20, List.replicate (4 - (Text.hexDigits m).length) '0' ++
      Text.hexDigits m = ['0', '0', Nat.digitChar (m / 16), Nat.digitChar (m % 16)] := by decide
  have hzero : Text.hexValue? '0' = some 0 := rfl
  have hvalue : ((0 * 16 + 0) * 16 + n / 16) * 16 + n % 16 = n := by omega
  rw [hdigits n h]
  simp only [List.cons_append, List.nil_append, readHex4, hzero,
    hexValue?_digitChar (n / 16) (by omega), hexValue?_digitChar (n % 16) (by omega), hvalue]

theorem readUnicode_padded {n : Nat} (h : n < 0x20) (rest : Rest) :
    readUnicode (List.replicate (4 - (Text.hexDigits n).length) '0' ++ Text.hexDigits n ++ rest) =
      some (Char.ofNat n, rest) := by
  rw [readUnicode, readHex4_padded h]
  exact if_pos (Or.inl (by omega))

theorem readChars_plain {c : Char} (hquote : c ≠ '"') (hslash : c ≠ '\\') (hc : ¬c.toNat < 0x20)
    (fuel : Nat) (rest : Rest) :
    readChars (fuel + 1) (c :: rest) = (readChars fuel rest).map fun r => (c :: r.1, r.2) := by
  have hnot : ¬(c.toNat < 0x20 ∨ c = '\\') := by simp [hc, hslash]
  rw [readChars, if_neg hnot]
  · exact hquote
  · exact fun _ h => absurd h hslash
  · exact fun _ _ h => absurd h hslash

theorem readChars_escapeChar (c : Char) (fuel : Nat) (rest : Rest) :
    readChars (fuel + 1) (escapeChar c ++ rest) =
      (readChars fuel rest).map fun r => (c :: r.1, r.2) := by
  unfold escapeChar
  split
  · next h => rw [h]; rfl
  split
  · next h => rw [h]; rfl
  split
  · next h => rw [h]; rfl
  split
  · next h => rw [h]; rfl
  split
  · next h => rw [h]; rfl
  split
  · next h => rw [← Char.ofNat_toNat c, h]; rfl
  split
  · next h => rw [← Char.ofNat_toNat c, h]; rfl
  split
  · next h =>
      have hread := readUnicode_padded h rest
      rw [Char.ofNat_toNat] at hread
      rw [List.append_assoc, List.append_assoc, ← List.append_assoc (List.replicate _ _)]
      simp only [List.cons_append, List.nil_append, readChars, hread]
  · exact readChars_plain ‹_› ‹_› ‹_› fuel rest

theorem readChars_escaped (cs : List Char) {fuel : Nat} (hfuel : cs.length < fuel) (rest : Rest) :
    readChars fuel (cs.flatMap escapeChar ++ '"' :: rest) = some (cs, rest) := by
  induction cs generalizing fuel with
  | nil =>
      cases fuel with
      | zero => cases hfuel
      | succ fuel => rfl
  | cons c cs ih =>
      cases fuel with
      | zero => cases hfuel
      | succ fuel =>
          rw [List.flatMap_cons, List.append_assoc, readChars_escapeChar,
            ih (Nat.lt_of_succ_lt_succ hfuel)]
          rfl

theorem escapeChar_ne_nil (c : Char) : escapeChar c ≠ [] := by
  unfold escapeChar
  repeat' split
  all_goals exact List.cons_ne_nil _ _

theorem length_le_flatMap_escapeChar (cs : List Char) :
    cs.length ≤ (cs.flatMap escapeChar).length := by
  induction cs with
  | nil => exact Nat.le_refl _
  | cons c cs ih =>
      have hpos := List.length_pos_iff.2 (escapeChar_ne_nil c)
      rw [List.flatMap_cons, List.length_append, List.length_cons]
      omega

theorem readString_escaped (s : String) (rest : Rest) :
    readString (s.toList.flatMap escapeChar ++ '"' :: rest) = some (s, rest) := by
  have hlength := length_le_flatMap_escapeChar s.toList
  rw [readString, readChars_escaped _ (by rw [List.length_append]; omega), Option.map_some,
    String.ofList_toList]

end Strings

section Numerals

def fractionText (fraction : List Char) : List Char :=
  if fraction.isEmpty then [] else '.' :: fraction

def exponentText : Option Int → List Char
  | none => []
  | some e => 'e' :: (Decimal.signedText e).toList

def unsignedText (n : Numeral) : List Char :=
  n.whole ++ (fractionText n.fraction ++ exponentText n.exponent)

theorem writeNumeral_eq (n : Numeral) :
    writeNumeral n = if n.negative then '-' :: unsignedText n else unsignedText n := by
  obtain ⟨negative, whole, fraction, exponent⟩ := n
  cases negative <;> cases exponent <;>
    simp [writeNumeral, unsignedText, fractionText, exponentText]

def Stops (class? : Char → Bool) (rest : Rest) : Prop := ∀ c, rest.head? = some c → class? c = false

def Follows (rest : Rest) : Prop := ∀ c, rest.head? = some c → c = ',' ∨ c = ']' ∨ c = '\x7d'

theorem Follows.stops {class? : Char → Bool} (h : Follows rest)
    (hclass : [',', ']', '\x7d'].any class? = false) : Stops class? rest := by
  intro c hc
  rw [List.any_eq_false] at hclass
  have hmem : c ∈ [',', ']', '\x7d'] := by simpa using h c hc
  simpa using hclass c hmem

theorem readDigits_append {ds : List Char} (hds : ∀ c ∈ ds, Decimal.isDigit c = true)
    (hrest : Stops Decimal.isDigit rest) : readDigits (ds ++ rest) = (ds, rest) := by
  have hnone : rest.takeWhile Decimal.isDigit = [] ∧ rest.dropWhile Decimal.isDigit = rest := by
    cases rest with
    | nil => exact ⟨rfl, rfl⟩
    | cons c rest => simp [hrest c rfl]
  rw [readDigits, List.takeWhile_append_of_pos hds, List.dropWhile_append_of_pos hds, hnone.1, hnone.2,
    List.append_nil]

theorem readSignedExponent_digits (negative : Bool) (n : Nat) (hrest : Stops Decimal.isDigit rest) :
    readSignedExponent negative (Decimal.digits n ++ rest) =
      some (some (if negative then -(n : Int) else n), rest) := by
  have hsome : (Decimal.digits n).isEmpty = false := by
    simpa using Decimal.digits_ne_nil n
  simp only [readSignedExponent, readDigits_append (fun _ => Decimal.isDigit_of_mem_digits) hrest, hsome,
    Decimal.value_digits, Bool.false_eq_true, if_false]

theorem readExponent_written (exponent : Option Int) (hrest : Follows rest) :
    readExponent (exponentText exponent ++ rest) = some (exponent, rest) := by
  have hstops : Stops Decimal.isDigit rest := hrest.stops (by decide)
  cases exponent with
  | none =>
      cases rest with
      | nil => rfl
      | cons c rest =>
          have hc : ¬(c = 'e' ∨ c = 'E') := by
            rcases hrest c rfl with rfl | rfl | rfl <;> decide
          simp only [exponentText, List.nil_append, readExponent, if_neg hc]
  | some e =>
      by_cases he : e < 0
      · have habs : -(e.natAbs : Int) = e := by omega
        simp only [exponentText, Decimal.toList_signedText, if_pos he, List.cons_append, readExponent,
          true_or, if_true, readSignedExponent_digits true _ hstops, habs]
      · have hnat : (e.toNat : Int) = e := by omega
        -- There is no sign, so the reader looks at the first digit for one.
        obtain ⟨d, ds, hcons⟩ := List.exists_cons_of_ne_nil (Decimal.digits_ne_nil e.toNat)
        have hd : Decimal.isDigit d = true :=
          Decimal.isDigit_of_mem_digits (n := e.toNat) (hcons ▸ List.mem_cons_self)
        have hread := readSignedExponent_digits false e.toNat hstops
        rw [hcons] at hread
        simp only [exponentText, Decimal.toList_signedText, if_neg he, hcons, List.cons_append,
          readExponent, true_or, if_true]
        split
        · next h => cases h; exact absurd hd (by decide)
        · next h => cases h; exact absurd hd (by decide)
        · simpa [hnat] using hread

theorem readFraction_written {fraction : List Char}
    (hdigits : ∀ c ∈ fraction, Decimal.isDigit c = true) (hstops : Stops Decimal.isDigit rest)
    (hpoint : rest.head? ≠ some '.') :
    readFraction (fractionText fraction ++ rest) = some (fraction, rest) := by
  cases fraction with
  | nil =>
      cases rest with
      | nil => rfl
      | cons c rest =>
          change readFraction (c :: rest) = _
          rw [readFraction]
          exact fun _ h => hpoint (congrArg List.head? h)
  | cons d ds =>
      change readFraction ('.' :: (d :: ds ++ rest)) = _
      rw [readFraction, readDigits_append hdigits hstops]
      rfl

theorem readUnsigned_written {n : Numeral} (hn : n.Sound) (hrest : Follows rest) :
    readUnsigned n.negative (unsignedText n ++ rest) = some (n, rest) := by
  have hhead : ∀ c, (exponentText n.exponent ++ rest).head? = some c →
      c = 'e' ∨ c = ',' ∨ c = ']' ∨ c = '\x7d' := by
    intro c hc
    cases hexponent : n.exponent with
    | none =>
        rw [hexponent] at hc
        exact Or.inr (hrest c hc)
    | some e =>
        rw [hexponent] at hc
        exact Or.inl (Option.some.inj hc).symm
  have hstops : Stops Decimal.isDigit (exponentText n.exponent ++ rest) := by
    intro c hc
    rcases hhead c hc with rfl | rfl | rfl | rfl <;> rfl
  have hpoint : (exponentText n.exponent ++ rest).head? ≠ some '.' := by
    intro hc
    exact absurd (hhead _ hc) (by decide)
  have hwhole : Stops Decimal.isDigit
      (fractionText n.fraction ++ (exponentText n.exponent ++ rest)) := by
    intro c hc
    cases hfraction : n.fraction with
    | nil =>
        rw [hfraction] at hc
        exact hstops c hc
    | cons d ds =>
        rw [hfraction] at hc
        cases hc
        rfl
  have hsome : n.whole.isEmpty = false := by simpa using hn.ne_nil
  have hzero : (n.whole.head? == some '0' && decide (n.whole.length > 1)) = false := by
    rw [Bool.and_eq_false_iff]
    by_cases h : n.whole.head? = some '0'
    · exact Or.inr (by rw [hn.zero h]; rfl)
    · exact Or.inl (beq_eq_false_iff_ne.2 h)
  simp only [unsignedText, List.append_assoc, readUnsigned, readDigits_append hn.whole hwhole, hsome,
    hzero, Bool.or_self, Bool.false_eq_true, if_false, readFraction_written hn.fraction hstops hpoint,
    readExponent_written n.exponent hrest]

theorem exists_cons_unsignedText {n : Numeral} (hn : n.Sound) :
    ∃ d ds, unsignedText n = d :: ds ∧ Decimal.isDigit d = true := by
  obtain ⟨d, ds, hcons⟩ := List.exists_cons_of_ne_nil hn.ne_nil
  exact ⟨d, _, by rw [unsignedText, hcons]; rfl, hn.whole d (hcons ▸ List.mem_cons_self)⟩

def OpensNumeral (c : Char) : Prop := 45 ≤ c.toNat ∧ c.toNat ≤ 57

theorem OpensNumeral.ne {c d : Char} (hc : OpensNumeral c) (hd : d.toNat < 45 ∨ 57 < d.toNat) :
    c ≠ d := by
  rintro rfl
  obtain ⟨hlow, hhigh⟩ := hc
  omega

theorem exists_cons_writeNumeral {n : Numeral} (hn : n.Sound) :
    ∃ c cs, writeNumeral n = c :: cs ∧ OpensNumeral c := by
  rw [writeNumeral_eq]
  split
  · exact ⟨'-', _, rfl, by decide, by decide⟩
  · obtain ⟨d, ds, hcons, hd⟩ := exists_cons_unsignedText hn
    rw [Decimal.isDigit_iff] at hd
    exact ⟨d, ds, hcons, by omega, hd.2⟩

theorem readNumeral_written {n : Numeral} (hn : n.Sound) (hrest : Follows rest) :
    readNumeral (writeNumeral n ++ rest) = some (n, rest) := by
  have hread := readUnsigned_written hn hrest
  rw [writeNumeral_eq]
  split
  · next hneg =>
      rw [hneg] at hread
      exact hread
  · next hneg =>
      rw [Bool.eq_false_iff.2 hneg] at hread
      obtain ⟨d, ds, hcons, hd⟩ := exists_cons_unsignedText hn
      rw [hcons] at hread ⊢
      rw [List.cons_append, readNumeral]
      · exact hread
      · intro _ h
        rw [(List.cons.inj h).1] at hd
        exact absurd hd (by decide)

end Numerals

section Values

/-- A value that is nested at most so deep and whose numerals can be written. -/
inductive Fits : Nat → Json → Prop
  | null {depth} : Fits depth .null
  | bool {depth} (value : Bool) : Fits depth (.bool value)
  | number {depth n} (h : n.Sound) : Fits depth (.number n)
  | string {depth} (value : String) : Fits depth (.string value)
  | array {depth items} (h : ∀ item ∈ items, Fits depth item) : Fits (depth + 1) (.array items)
  | object {depth fields} (h : ∀ field ∈ fields, Fits depth field.2) :
      Fits (depth + 1) (.object fields)

def Reads (depth : Nat) (j : Json) : Prop :=
  ∀ fuel rest, (write j).length ≤ fuel → Follows rest →
    readValue fuel depth (write j ++ rest) = some (j, rest)

variable {depth fuel : Nat}

theorem skipBlanks_cons {c : Char} (hc : isBlank c = false) (rest : Rest) :
    skipBlanks (c :: rest) = c :: rest :=
  List.dropWhile_cons_of_neg (by simp [hc])

theorem follows_cons {c : Char} (hc : c = ',' ∨ c = ']' ∨ c = '\x7d') (rest : Rest) :
    Follows (c :: rest) := by
  intro d hd
  rw [← Option.some.inj hd]
  exact hc

theorem OpensNumeral.isBlank {c : Char} (hc : OpensNumeral c) : isBlank c = false := by
  simp [Json.isBlank, hc.ne]

theorem exists_cons_write {j : Json} (h : Fits depth j) :
    ∃ c cs, write j = c :: cs ∧ isBlank c = false ∧ c ≠ ']' := by
  cases h with
  | null => exact ⟨'n', _, rfl, rfl, by decide⟩
  | bool value =>
      cases value with
      | true => exact ⟨'t', _, rfl, rfl, by decide⟩
      | false => exact ⟨'f', _, rfl, rfl, by decide⟩
  | number hn =>
      obtain ⟨c, cs, hcons, hc⟩ := exists_cons_writeNumeral hn
      exact ⟨c, cs, hcons, hc.isBlank, hc.ne (by decide)⟩
  | string value => exact ⟨'"', _, rfl, rfl, by decide⟩
  | array h => exact ⟨'[', _, rfl, rfl, by decide⟩
  | object h => exact ⟨'\x7b', _, rfl, rfl, by decide⟩

theorem readValue_numeral {c : Char} (hc : OpensNumeral c) (cs : Rest) :
    readValue (fuel + 1) depth (c :: cs) =
      (readNumeral (c :: cs)).map fun r => (.number r.1, r.2) := by
  rw [readValue, skipBlanks_cons hc.isBlank]
  split
  · contradiction
  · next h => exact absurd (List.cons.inj h).1 (hc.ne (by decide))
  · next h => exact absurd (List.cons.inj h).1 (hc.ne (by decide))
  · next h => exact absurd (List.cons.inj h).1 (hc.ne (by decide))
  · next h => exact absurd (List.cons.inj h).1 (hc.ne (by decide))
  · next h => exact absurd (List.cons.inj h).1 (hc.ne (by decide))
  · next h => exact absurd (List.cons.inj h).1 (hc.ne (by decide))
  · rfl

theorem reads_number {n : Numeral} (hn : n.Sound) : Reads depth (.number n) := by
  intro fuel rest hfuel hrest
  have hread := readNumeral_written hn hrest
  obtain ⟨c, cs, hcons, hc⟩ := exists_cons_writeNumeral hn
  rw [write, hcons] at hfuel ⊢
  rw [hcons] at hread
  cases fuel with
  | zero => cases hfuel
  | succ fuel =>
      rw [List.cons_append] at hread ⊢
      rw [readValue_numeral hc, hread]
      rfl

theorem writeString_append (s : String) (rest : Rest) :
    writeString s ++ rest = '"' :: (s.toList.flatMap escapeChar ++ '"' :: rest) := by
  simp [writeString]

theorem reads_string (value : String) : Reads depth (.string value) := by
  intro fuel rest hfuel _
  cases fuel with
  | zero => cases hfuel
  | succ fuel =>
      have hread := readString_escaped value rest
      rw [write, writeString_append, readValue]
      change (readString _).map _ = _
      rw [hread]
      rfl

theorem writeItems_cons (item next : Json) (items : List Json) :
    writeItems (item :: next :: items) = write item ++ ',' :: writeItems (next :: items) := by
  rw [writeItems]
  exact List.cons_ne_nil _ _

theorem readItems_written {items : List Json} (hsome : items ≠ [])
    (hreads : ∀ item ∈ items, Reads depth item) (hfuel : (writeItems items).length ≤ fuel)
    (rest : Rest) : readItems fuel depth (writeItems items ++ rest) = some (items, rest) := by
  induction items generalizing fuel with
  | nil => exact absurd rfl hsome
  | cons item items ih =>
      have hitem := hreads item List.mem_cons_self
      cases items with
      | nil =>
          rw [writeItems, List.length_append] at hfuel
          cases fuel with
          | zero => cases hfuel
          | succ fuel =>
              have hread := hitem fuel (']' :: rest) (Nat.le_of_succ_le_succ hfuel)
                (follows_cons (by decide) rest)
              rw [writeItems, List.append_assoc, List.singleton_append, readItems, hread]
              rfl
      | cons next items =>
          rw [writeItems_cons, List.length_append, List.length_cons] at hfuel
          cases fuel with
          | zero => cases hfuel
          | succ fuel =>
              have hread := hitem fuel (',' :: (writeItems (next :: items) ++ rest)) (by omega)
                (follows_cons (by decide) _)
              have hmore : readItems fuel depth (writeItems (next :: items) ++ rest) =
                  some (next :: items, rest) :=
                ih (List.cons_ne_nil _ _)
                  (fun other hmem => hreads other (List.mem_cons_of_mem _ hmem)) (by omega)
              rw [writeItems_cons, List.append_assoc, List.cons_append, readItems, hread]
              change (readItems _ _ _).map _ = _
              rw [hmore]
              rfl

theorem writeFields_cons (field next : String × Json) (fields : List (String × Json)) :
    writeFields (field :: next :: fields) =
      writeString field.1 ++ ':' :: write field.2 ++ ',' :: writeFields (next :: fields) := by
  rw [writeFields]
  exact List.cons_ne_nil _ _

theorem readFields_written {fields : List (String × Json)} (hsome : fields ≠ [])
    (hreads : ∀ field ∈ fields, Reads depth field.2) (hfuel : (writeFields fields).length ≤ fuel)
    (rest : Rest) : readFields fuel depth (writeFields fields ++ rest) = some (fields, rest) := by
  induction fields generalizing fuel with
  | nil => exact absurd rfl hsome
  | cons field fields ih =>
      have hfield := hreads field List.mem_cons_self
      cases fields with
      | nil =>
          have htext : writeFields [field] ++ rest =
              writeString field.1 ++ ':' :: (write field.2 ++ '\x7d' :: rest) := by
            simp [writeFields]
          have hlength : (writeFields [field]).length =
              (writeString field.1).length + ((write field.2).length + 1) + 1 := by
            simp [writeFields]
            omega
          cases fuel with
          | zero => omega
          | succ fuel =>
              have hread := hfield fuel ('\x7d' :: rest) (by omega) (follows_cons (by decide) rest)
              rw [htext, writeString_append, readFields, skipBlanks_cons rfl]
              simp only [readString_escaped, skipBlanks_cons (c := ':') rfl, hread]
              rfl
      | cons next fields =>
          have htext : writeFields (field :: next :: fields) ++ rest = writeString field.1 ++
              ':' :: (write field.2 ++ ',' :: (writeFields (next :: fields) ++ rest)) := by
            simp [writeFields_cons]
          have hlength : (writeFields (field :: next :: fields)).length = (writeString field.1).length +
              ((write field.2).length + 1) + ((writeFields (next :: fields)).length + 1) := by
            simp [writeFields_cons]
            omega
          cases fuel with
          | zero => omega
          | succ fuel =>
              have hmore : readFields fuel depth (writeFields (next :: fields) ++ rest) =
                  some (next :: fields, rest) :=
                ih (List.cons_ne_nil _ _)
                  (fun other hmem => hreads other (List.mem_cons_of_mem _ hmem)) (by omega)
              have hread := hfield fuel (',' :: (writeFields (next :: fields) ++ rest)) (by omega)
                (follows_cons (by decide) _)
              rw [htext, writeString_append, readFields, skipBlanks_cons rfl]
              simp only [readString_escaped, skipBlanks_cons (c := ':') rfl, hread]
              change (readFields _ _ _).map _ = _
              rw [hmore]
              rfl

theorem readValue_array {c : Char} (hblank : isBlank c = false) (hc : c ≠ ']') (cs : Rest) :
    readValue (fuel + 1) (depth + 1) ('[' :: c :: cs) =
      (readItems fuel depth (c :: cs)).map fun r => (.array r.1, r.2) := by
  simp only [readValue, skipBlanks_cons (c := '[') rfl, skipBlanks_cons hblank]
  split
  · next h => exact absurd (List.cons.inj h).1 hc
  · rfl

theorem readValue_object {c : Char} (hblank : isBlank c = false) (hc : c ≠ '\x7d') (cs : Rest) :
    readValue (fuel + 1) (depth + 1) ('\x7b' :: c :: cs) =
      (readFields fuel depth (c :: cs)).map fun r => (.object r.1, r.2) := by
  simp only [readValue, skipBlanks_cons (c := '\x7b') rfl, skipBlanks_cons hblank]
  split
  · next h => exact absurd (List.cons.inj h).1 hc
  · rfl

theorem reads_array {items : List Json} (hfits : ∀ item ∈ items, Fits depth item)
    (hreads : ∀ item ∈ items, Reads depth item) : Reads (depth + 1) (.array items) := by
  intro fuel rest hfuel _
  rw [write] at hfuel ⊢
  cases fuel with
  | zero => cases hfuel
  | succ fuel =>
      cases items with
      | nil => rfl
      | cons item items =>
          have hread := readItems_written (List.cons_ne_nil _ _) hreads
            (Nat.le_of_succ_le_succ hfuel) rest
          -- That the array is not empty is told by the first character of its first item.
          obtain ⟨c, cs, hcons, hblank, hend⟩ := exists_cons_write (hfits item List.mem_cons_self)
          have htext : ∃ more, writeItems (item :: items) ++ rest = c :: more := by
            cases items with
            | nil => exact ⟨_, by rw [writeItems, hcons]; rfl⟩
            | cons next items => exact ⟨_, by rw [writeItems_cons, hcons]; rfl⟩
          obtain ⟨more, htext⟩ := htext
          rw [htext] at hread
          rw [List.cons_append, htext, readValue_array hblank hend, hread]
          rfl

theorem reads_object {fields : List (String × Json)}
    (hreads : ∀ field ∈ fields, Reads depth field.2) : Reads (depth + 1) (.object fields) := by
  intro fuel rest hfuel _
  rw [write] at hfuel ⊢
  cases fuel with
  | zero => cases hfuel
  | succ fuel =>
      cases fields with
      | nil => rfl
      | cons field fields =>
          have hread := readFields_written (List.cons_ne_nil _ _) hreads
            (Nat.le_of_succ_le_succ hfuel) rest
          have htext : ∃ more, writeFields (field :: fields) ++ rest = '"' :: more := by
            cases fields with
            | nil => exact ⟨_, rfl⟩
            | cons next fields => exact ⟨_, by rw [writeFields_cons]; rfl⟩
          obtain ⟨more, htext⟩ := htext
          rw [htext] at hread
          rw [List.cons_append, htext, readValue_object rfl (by decide), hread]
          rfl

/-- The induction is on the value: the parts of an array or an object are read before it is. -/
theorem reads_of_fits {j : Json} (h : Fits depth j) : Reads depth j := by
  induction h with
  | null =>
      intro fuel rest hfuel _
      cases fuel with
      | zero => cases hfuel
      | succ fuel => rfl
  | bool value =>
      intro fuel rest hfuel _
      cases fuel with
      | zero => cases value <;> cases hfuel
      | succ fuel => cases value <;> rfl
  | number hn => exact reads_number hn
  | string value => exact reads_string value
  | array hfits ih => exact reads_array hfits ih
  | object _ ih => exact reads_object ih

theorem parse_write {j : Json} (h : Fits depthLimit j) : parse (write j) = some j := by
  have hread := reads_of_fits h (2 * (write j).length + 2) [] (by omega) (fun _ h => nomatch h)
  rw [List.append_nil] at hread
  rw [parse, hread]
  rfl

end Values

section Shown

variable {depth : Nat}

def isShown (c : Char) : Bool := decide (0x20 ≤ c.toNat)

theorem all_isShown_escapeChar (c : Char) : (escapeChar c).all isShown = true := by
  have hhex : ∀ n < 0x20, (['\\', 'u'] ++ List.replicate (4 - (Text.hexDigits n).length) '0' ++
      Text.hexDigits n).all isShown = true := by decide
  unfold escapeChar
  split
  · rfl
  split
  · rfl
  split
  · rfl
  split
  · rfl
  split
  · rfl
  split
  · rfl
  split
  · rfl
  split
  · exact hhex _ ‹_›
  · simpa [isShown] using ‹¬c.toNat < 0x20›

theorem all_isShown_writeString (s : String) : (writeString s).all isShown = true := by
  have hquote : isShown '"' = true := rfl
  simp [writeString, List.all_flatMap, all_isShown_escapeChar, hquote]

theorem all_isShown_of_isDigit {ds : List Char} (h : ∀ c ∈ ds, Decimal.isDigit c = true) :
    ds.all isShown = true := by
  rw [List.all_eq_true]
  intro c hc
  have hc := Decimal.isDigit_iff.1 (h c hc)
  exact decide_eq_true (by omega)

theorem all_isShown_writeNumeral {n : Numeral} (hn : n.Sound) : (writeNumeral n).all isShown = true := by
  have hminus : isShown '-' = true := rfl
  have hfraction : (fractionText n.fraction).all isShown = true := by
    unfold fractionText
    split
    · rfl
    · rw [List.all_cons, all_isShown_of_isDigit hn.fraction]
      rfl
  have hexponent : (exponentText n.exponent).all isShown = true := by
    have hdigits : ∀ m, (Decimal.digits m).all isShown = true :=
      fun m => all_isShown_of_isDigit fun _ => Decimal.isDigit_of_mem_digits
    have he : isShown 'e' = true := rfl
    cases n.exponent with
    | none => rfl
    | some e =>
        rw [exponentText, Decimal.toList_signedText]
        split
        · simp [hdigits, hminus, he]
        · simp [hdigits, he]
  have htext : (unsignedText n).all isShown = true := by
    simp [unsignedText, all_isShown_of_isDigit hn.whole, hfraction, hexponent]
  rw [writeNumeral_eq]
  split
  · simp [htext, hminus]
  · exact htext

theorem all_isShown_writeItems {items : List Json}
    (h : ∀ item ∈ items, (write item).all isShown = true) : (writeItems items).all isShown = true := by
  have hcomma : isShown ',' = true := rfl
  have hend : isShown ']' = true := rfl
  induction items with
  | nil => rfl
  | cons item items ih =>
      have hitem := h item List.mem_cons_self
      cases items with
      | nil => simp [writeItems, hitem, hend]
      | cons next items =>
          have hmore := ih fun other hmem => h other (List.mem_cons_of_mem _ hmem)
          simp [writeItems_cons, hitem, hcomma, hmore]

theorem all_isShown_writeFields {fields : List (String × Json)}
    (h : ∀ field ∈ fields, (write field.2).all isShown = true) :
    (writeFields fields).all isShown = true := by
  have hcomma : isShown ',' = true := rfl
  have hcolon : isShown ':' = true := rfl
  have hend : isShown '\x7d' = true := rfl
  induction fields with
  | nil => rfl
  | cons field fields ih =>
      have hfield := h field List.mem_cons_self
      cases fields with
      | nil => simp [writeFields, all_isShown_writeString, hfield, hcolon, hend]
      | cons next fields =>
          have hmore := ih fun other hmem => h other (List.mem_cons_of_mem _ hmem)
          simp [writeFields_cons, all_isShown_writeString, hfield, hcolon, hcomma, hmore]

theorem all_isShown_write {j : Json} (h : Fits depth j) : (write j).all isShown = true := by
  induction h with
  | null => rfl
  | bool value => cases value <;> rfl
  | number hn => exact all_isShown_writeNumeral hn
  | string value => exact all_isShown_writeString value
  | array _ ih =>
      rw [write, List.all_cons, all_isShown_writeItems ih]
      rfl
  | object _ ih =>
      rw [write, List.all_cons, all_isShown_writeFields ih]
      rfl

end Shown

end Json

end IsolatedSite
