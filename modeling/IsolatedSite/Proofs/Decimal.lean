import IsolatedSite.Text.Decimal

namespace IsolatedSite.Decimal

theorem digits_ne_nil (n : Nat) : digits n ≠ [] := Nat.toDigits_ne_nil

theorem isDigit_iff {c : Char} : isDigit c = true ↔ 48 ≤ c.toNat ∧ c.toNat ≤ 57 := by
  simp only [isDigit, Bool.and_eq_true, decide_eq_true_eq]
  exact Iff.rfl

theorem isDigit_of_mem_digits {n : Nat} {c : Char} (h : c ∈ digits n) : isDigit c = true := by
  have hdigit := Nat.isDigit_of_mem_toDigits (by decide) (by decide) h
  simp only [Char.isDigit, Bool.and_eq_true, decide_eq_true_eq] at hdigit
  exact isDigit_iff.2 hdigit

theorem isDigit_of_mem_padded {width n : Nat} {c : Char} (h : c ∈ padded width n) :
    isDigit c = true := by
  rcases List.mem_append.1 h with h | h
  · rw [(List.mem_replicate.1 h).2]
    rfl
  · exact isDigit_of_mem_digits h

theorem not_mem_padded {c : Char} (h : isDigit c = false) {width n : Nat} : c ∉ padded width n := by
  intro hmem
  rw [isDigit_of_mem_padded hmem] at h
  cases h

theorem value_eq_ofDigitChars (ds : List Char) : value ds = Nat.ofDigitChars 10 ds 0 := by
  have hfold : (fun m d => m * 10 + digitValue d) =
      fun m (d : Char) => 10 * m + (d.toNat - '0'.toNat) := by
    funext m d
    rw [digitValue, Nat.mul_comm]
  rw [value, hfold, ← Nat.ofDigitChars_eq_foldl]

theorem value_digits (n : Nat) : value (digits n) = n := by
  rw [value_eq_ofDigitChars]
  exact Nat.ofDigitChars_ten_toDigits

theorem value_padded (width n : Nat) : value (padded width n) = n := by
  rw [value_eq_ofDigitChars, padded, Nat.ofDigitChars_append, Nat.ofDigitChars_replicate_zero,
    Nat.mul_zero, ← value_eq_ofDigitChars, value_digits]

theorem digits_injective {m n : Nat} (h : digits m = digits n) : m = n := by
  rw [← value_digits m, h, value_digits]

theorem read?_digits (n : Nat) : read? (digits n) = some n := by
  have hall : (digits n).all isDigit = true := List.all_eq_true.2 fun _ => isDigit_of_mem_digits
  rw [read?, if_pos ⟨digits_ne_nil n, hall⟩, value_digits]

theorem padded_ne_nil (width n : Nat) : padded width n ≠ [] :=
  List.append_ne_nil_of_right_ne_nil _ (digits_ne_nil n)

theorem read?_padded (width n : Nat) : read? (padded width n) = some n := by
  have hall : (padded width n).all isDigit = true := List.all_eq_true.2 fun _ => isDigit_of_mem_padded
  rw [read?, if_pos ⟨padded_ne_nil width n, hall⟩, value_padded]

theorem le_length_padded (width n : Nat) : width ≤ (padded width n).length := by
  rw [padded, List.length_append, List.length_replicate]
  omega

theorem length_padded {width n : Nat} (hwidth : 0 < width) (h : n < Nat.pow 10 width) :
    (padded width n).length = width := by
  have hdigits : (digits n).length ≤ width := (Nat.length_toDigits_le_iff (by decide) hwidth).2 h
  rw [padded, List.length_append, List.length_replicate]
  omega

theorem digits_of_head?_eq_zero {n : Nat} (h : (digits n).head? = some '0') : digits n = ['0'] := by
  induction n using Nat.strongRecOn with
  | ind n ih =>
      by_cases hn : n < 10
      · rw [digits, Nat.toDigits_of_lt_base hn] at h ⊢
        rw [Option.some.inj h]
      · have hsplit : digits n = digits (n / 10) ++ [(n % 10).digitChar] :=
          Nat.toDigits_of_base_le (by decide) (by omega)
        -- The leading digit is that of a tenth of the number, which would be zero.
        obtain ⟨c, cs, hcons⟩ := List.exists_cons_of_ne_nil (digits_ne_nil (n / 10))
        have hhead : (digits (n / 10)).head? = some '0' := by
          rw [hsplit, hcons] at h
          rw [hcons]
          exact h
        have hzero := value_digits (n / 10)
        rw [ih (n / 10) (by omega) hhead] at hzero
        have : n / 10 = 0 := hzero.symm
        omega

theorem toList_signedText (n : Int) : (signedText n).toList =
    if n < 0 then '-' :: digits n.natAbs else digits n.toNat := by
  unfold signedText
  split
  · simp [text]
  · simp [text]

end IsolatedSite.Decimal
