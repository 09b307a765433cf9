import Mathlib.Data.List.Nodup

namespace IsolatedSite

theorem bind_eq_ok_iff {ε α β : Type} {x : Except ε α} {f : α → Except ε β} {b : β} :
    x >>= f = .ok b ↔ ∃ a, x = .ok a ∧ f a = .ok b := by
  cases x with
  | error cause =>
      constructor
      · intro h
        cases h
      · rintro ⟨a, ha, -⟩
        cases ha
  | ok a =>
      constructor
      · exact fun h => ⟨a, rfl, h⟩
      · rintro ⟨a', ha, h⟩
        cases ha
        exact h

theorem find?_of_nodup {α β : Type} [BEq β] [LawfulBEq β] (key : α → β) {xs : List α}
    (hd : (xs.map key).Nodup) {x : α} (hx : x ∈ xs) : xs.find? (key · == key x) = some x := by
  obtain ⟨before, after, rfl⟩ := List.append_of_mem hx
  rw [List.map_append, List.nodup_append] at hd
  have hbefore : before.find? (key · == key x) = none := by
    rw [List.find?_eq_none]
    intro y hy hkey
    exact hd.2.2 (key y) (List.mem_map.2 ⟨y, hy, rfl⟩) (key x) List.mem_cons_self (eq_of_beq hkey)
  have hself : (x :: after).find? (key · == key x) = some x :=
    List.find?_cons_of_pos (beq_self_eq_true _)
  rw [List.find?_append, hbefore, hself]
  rfl

end IsolatedSite
