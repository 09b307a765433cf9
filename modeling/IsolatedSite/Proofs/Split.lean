import IsolatedSite.Text.Split

namespace IsolatedSite

variable {α : Type} [DecidableEq α]

theorem splitOn_ne_nil (sep : α) (as : List α) : splitOn sep as ≠ [] := by
  induction as with
  | nil => simp [splitOn]
  | cons a as ih =>
      by_cases ha : a = sep
      · simp [splitOn, ha]
      · cases h : splitOn sep as <;> simp [splitOn, ha, h]

theorem splitOn_cons_of_ne {sep a : α} (ha : a ≠ sep) {as part : List α} {parts : List (List α)}
    (h : splitOn sep as = part :: parts) : splitOn sep (a :: as) = (a :: part) :: parts := by
  simp [splitOn, ha, h]

theorem splitOn_append_sep (sep : α) (as bs : List α) :
    splitOn sep (as ++ sep :: bs) = splitOn sep as ++ splitOn sep bs := by
  induction as with
  | nil => simp [splitOn]
  | cons a as ih =>
      by_cases ha : a = sep
      · simp [splitOn, ha, ih]
      · obtain ⟨part, parts, hp⟩ := List.exists_cons_of_ne_nil (splitOn_ne_nil sep as)
        rw [hp] at ih
        rw [List.cons_append, splitOn_cons_of_ne ha hp, splitOn_cons_of_ne ha ih]
        rfl

theorem splitOn_of_not_mem {sep : α} {as : List α} (h : sep ∉ as) : splitOn sep as = [as] := by
  induction as with
  | nil => rfl
  | cons a as ih =>
      rw [List.mem_cons, not_or] at h
      exact splitOn_cons_of_ne (Ne.symm h.1) (ih h.2)

theorem splitOn_cons_self (sep : α) (as : List α) : splitOn sep (sep :: as) = [] :: splitOn sep as := by
  rw [splitOn, if_pos rfl]

omit [DecidableEq α] in
theorem joinWith_cons (sep : List α) (part : List α) {parts : List (List α)} (hp : parts ≠ []) :
    joinWith sep (part :: parts) = part ++ sep ++ joinWith sep parts := by
  cases parts with
  | nil => exact absurd rfl hp
  | cons next parts => rfl

/-- Lists of parts that come to a list with the separator between them. -/
structure Divides (sep : α) (parts : List (List α)) (as : List α) : Prop where
  some : parts ≠ []
  apart : ∀ part ∈ parts, sep ∉ part
  whole : joinWith [sep] parts = as

theorem not_mem_of_mem_splitOn {sep : α} {as part : List α} (h : part ∈ splitOn sep as) :
    sep ∉ part := by
  induction as generalizing part with
  | nil =>
      rw [List.mem_singleton.1 h]
      exact List.not_mem_nil
  | cons a as ih =>
      by_cases ha : a = sep
      · subst ha
        rw [splitOn_cons_self] at h
        rcases List.mem_cons.1 h with rfl | h
        · exact List.not_mem_nil
        · exact ih h
      · obtain ⟨first, rest, hsplit⟩ := List.exists_cons_of_ne_nil (splitOn_ne_nil sep as)
        rw [splitOn_cons_of_ne ha hsplit] at h
        rcases List.mem_cons.1 h with rfl | h
        · rw [List.mem_cons, not_or]
          exact ⟨Ne.symm ha, ih (by simp [hsplit])⟩
        · exact ih (by simp [hsplit, h])

theorem joinWith_splitOn (sep : α) (as : List α) : joinWith [sep] (splitOn sep as) = as := by
  induction as with
  | nil => rfl
  | cons a as ih =>
      by_cases ha : a = sep
      · subst ha
        rw [splitOn_cons_self, joinWith_cons _ _ (splitOn_ne_nil _ as), ih]
        rfl
      · obtain ⟨first, rest, hsplit⟩ := List.exists_cons_of_ne_nil (splitOn_ne_nil sep as)
        rw [splitOn_cons_of_ne ha hsplit]
        rw [hsplit] at ih
        cases rest with
        | nil => exact congrArg (a :: ·) ih
        | cons second rest => exact congrArg (a :: ·) ih

theorem splitOn_joinWith {sep : α} {parts : List (List α)} (hp : parts ≠ [])
    (hsep : ∀ part ∈ parts, sep ∉ part) : splitOn sep (joinWith [sep] parts) = parts := by
  induction parts with
  | nil => exact absurd rfl hp
  | cons part parts ih =>
      have hpart := splitOn_of_not_mem (hsep part List.mem_cons_self)
      by_cases hrest : parts = []
      · subst hrest
        exact hpart
      · have hparts := ih hrest (fun other hmem => hsep other (List.mem_cons_of_mem _ hmem))
        rw [joinWith_cons _ _ hrest, List.append_assoc, List.singleton_append, splitOn_append_sep,
          hpart, hparts]
        rfl

theorem divides_iff {sep : α} {parts : List (List α)} {as : List α} :
    Divides sep parts as ↔ parts = splitOn sep as := by
  constructor
  · rintro ⟨hsome, hapart, rfl⟩
    exact (splitOn_joinWith hsome hapart).symm
  · rintro rfl
    exact ⟨splitOn_ne_nil sep as, fun _ => not_mem_of_mem_splitOn, joinWith_splitOn sep as⟩

theorem append_sep_inj {sep : α} {as bs as' bs' : List α}
    (hlen : (splitOn sep as).length = (splitOn sep as').length)
    (h : as ++ sep :: bs = as' ++ sep :: bs') : as = as' ∧ bs = bs' := by
  have hsplit := congrArg (splitOn sep) h
  rw [splitOn_append_sep, splitOn_append_sep] at hsplit
  obtain ⟨hfront, hback⟩ := List.append_inj hsplit hlen
  rw [← joinWith_splitOn sep as, ← joinWith_splitOn sep bs, hfront, hback, joinWith_splitOn,
    joinWith_splitOn]
  exact ⟨rfl, rfl⟩

omit [DecidableEq α] in
theorem not_mem_joinWith {a : α} {sep : List α} {parts : List (List α)} (hsep : a ∉ sep)
    (hparts : ∀ part ∈ parts, a ∉ part) : a ∉ joinWith sep parts := by
  induction parts with
  | nil => exact List.not_mem_nil
  | cons part parts ih =>
      have hpart := hparts part List.mem_cons_self
      have hrest := ih fun other hmem => hparts other (List.mem_cons_of_mem _ hmem)
      by_cases hp : parts = []
      · subst hp
        exact hpart
      · rw [joinWith_cons _ _ hp]
        simp only [List.mem_append, not_or]
        exact ⟨⟨hpart, hsep⟩, hrest⟩

theorem splitFirst_of_not_mem {sep : α} {as : List α} (h : sep ∉ as) :
    splitFirst sep as = (as, none) := by
  induction as with
  | nil => rfl
  | cons a as ih =>
      rw [List.mem_cons, not_or] at h
      rw [splitFirst, if_neg (Ne.symm h.1), ih h.2]

theorem splitFirst_append_sep {sep : α} {as : List α} (h : sep ∉ as) (bs : List α) :
    splitFirst sep (as ++ sep :: bs) = (as, some bs) := by
  induction as with
  | nil => rw [List.nil_append, splitFirst, if_pos rfl]
  | cons a as ih =>
      rw [List.mem_cons, not_or] at h
      rw [List.cons_append, splitFirst, if_neg (Ne.symm h.1), ih h.2]

theorem splitLast?_of_not_mem {sep : α} {as : List α} (h : sep ∉ as) : splitLast? sep as = none := by
  rw [splitLast?, splitFirst_of_not_mem (by rwa [List.mem_reverse])]

theorem splitLast?_append_sep (as : List α) {sep : α} {bs : List α} (h : sep ∉ bs) :
    splitLast? sep (as ++ sep :: bs) = some (as, bs) := by
  have hreverse : (as ++ sep :: bs).reverse = bs.reverse ++ sep :: as.reverse := by simp
  rw [splitLast?, hreverse, splitFirst_append_sep (by rwa [List.mem_reverse])]
  simp

end IsolatedSite
