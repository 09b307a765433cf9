import IsolatedSite.Headers
import IsolatedSite.Proofs.General

namespace IsolatedSite.Headers

def names (h : Headers) : List String := h.fields.map Field.name

theorem find?_place_self (new : Field) (change : Field → Field) (fields : List Field) :
    (place new change fields).find? (·.name == new.name) =
      some ((fields.find? (·.name == new.name)).elim new fun f => { change f with name := new.name }) := by
  induction fields with
  | nil => simp [place]
  | cons f fields ih =>
      by_cases hf : f.name = new.name
      · simp [place, hf]
      · simp [place, hf, ih]

theorem find?_place_of_ne {new : Field} {other : String} (hne : other ≠ new.name)
    (change : Field → Field) (fields : List Field) :
    (place new change fields).find? (·.name == other) = fields.find? (·.name == other) := by
  induction fields with
  | nil => simp [place, Ne.symm hne]
  | cons f fields ih =>
      by_cases hf : f.name = new.name
      · simp [place, hf, Ne.symm hne]
      · by_cases ho : f.name = other
        · simp [place, ho, hne]
        · simp [place, hf, ho, ih]

theorem mem_place {new : Field} {change : Field → Field} {fields : List Field} {f : Field}
    (hf : f ∈ place new change fields) :
    f = new ∨ f ∈ fields ∨ ∃ old ∈ fields, f = { change old with name := new.name } := by
  induction fields with
  | nil => exact Or.inl (by simpa [place] using hf)
  | cons first fields ih =>
      rw [place] at hf
      split at hf
      · rcases List.mem_cons.1 hf with rfl | hf
        · exact Or.inr (Or.inr ⟨first, List.mem_cons_self, rfl⟩)
        · exact Or.inr (Or.inl (List.mem_cons_of_mem _ hf))
      · rcases List.mem_cons.1 hf with rfl | hf
        · exact Or.inr (Or.inl List.mem_cons_self)
        · rcases ih hf with rfl | hf | ⟨old, hold, rfl⟩
          · exact Or.inl rfl
          · exact Or.inr (Or.inl (List.mem_cons_of_mem _ hf))
          · exact Or.inr (Or.inr ⟨old, List.mem_cons_of_mem _ hold, rfl⟩)

theorem names_insert (h : Headers) (name : String) (value : Bytes) :
    (h.insert name value).names = if name ∈ h.names then h.names else h.names ++ [name] :=
  map_name_place ⟨name, value, []⟩ _ h.fields

@[simp] theorem values_insert_self (h : Headers) (name : String) (value : Bytes) :
    (h.insert name value).values name = [value] := by
  rw [insert, values, find?_place_self ⟨name, value, []⟩]
  cases h.fields.find? (·.name == name) <;> rfl

@[simp] theorem values_insert_of_ne (h : Headers) {name other : String} (hne : other ≠ name)
    (value : Bytes) : (h.insert name value).values other = h.values other := by
  rw [insert, values, find?_place_of_ne hne]
  rfl

theorem values_eq_nil {h : Headers} {name : String} (hn : name ∉ h.names) : h.values name = [] := by
  have hnone : h.fields.find? (·.name == name) = none := by
    rw [List.find?_eq_none]
    intro f hf hname
    exact hn (List.mem_map.2 ⟨f, hf, eq_of_beq hname⟩)
  rw [values, hnone]

def Single (h : Headers) : Prop := ∀ f ∈ h.fields, f.more = []

theorem Single.insert {h : Headers} (hs : h.Single) (name : String) (value : Bytes) :
    (h.insert name value).Single := by
  intro f hf
  rcases mem_place hf with rfl | hf | ⟨_, -, rfl⟩
  · rfl
  · exact hs f hf
  · rfl

theorem names_of_fields {h : Headers} {pairs : List (String × Bytes)}
    (hp : h.fields = pairs.map Field.ofPair) : h.names = pairs.map Prod.fst := by
  rw [names, hp, List.map_map]
  rfl

theorem single_of_fields {h : Headers} {pairs : List (String × Bytes)}
    (hp : h.fields = pairs.map Field.ofPair) : h.Single := by
  intro f hf
  rw [hp] at hf
  obtain ⟨e, -, rfl⟩ := List.mem_map.1 hf
  rfl

theorem values_of_pair {h : Headers} {pairs : List (String × Bytes)}
    (hp : h.fields = pairs.map Field.ofPair) {name : String} {value : Bytes}
    (he : (name, value) ∈ pairs) : h.values name = [value] := by
  have hmem : Field.ofPair (name, value) ∈ h.fields := by
    rw [hp]
    exact List.mem_map.2 ⟨_, he, rfl⟩
  have hfind : h.fields.find? (·.name == name) = some (Field.ofPair (name, value)) :=
    find?_of_nodup Field.name h.distinct hmem
  rw [values, hfind]
  rfl

theorem Single.map_fst_toList {h : Headers} (hs : h.Single) : h.toList.map Prod.fst = h.names := by
  have hfield : ∀ f ∈ h.fields, (f.values.map fun v => (f.name, v)).map Prod.fst = [f.name] := by
    intro f hf
    simp [Field.values, hs f hf]
  rw [toList, List.map_flatMap, names]
  calc h.fields.flatMap (fun f => (f.values.map fun v => (f.name, v)).map Prod.fst)
      = h.fields.flatMap (fun f => [f.name]) := List.flatMap_congr hfield
    _ = h.fields.map Field.name := List.map_eq_flatMap.symm

def under (h : Headers) (name : String) : List Bytes :=
  (h.toList.filter (·.1 == name)).map Prod.snd

theorem under_eq_values (h : Headers) (name : String) : h.under name = h.values name := by
  obtain ⟨fields, hd⟩ := h
  induction fields with
  | nil => rfl
  | cons f fields ih =>
      have hsplit := hd
      rw [List.map_cons, List.nodup_cons] at hsplit
      obtain ⟨hfirst, hd'⟩ := hsplit
      have hrest := ih hd'
      by_cases hf : f.name = name
      · -- No other field has the name.
        have hnone : (Headers.mk fields hd').under name = [] := by
          rw [hrest]
          apply values_eq_nil
          rw [← hf]
          exact hfirst
        simp only [under, toList] at hnone ⊢
        rw [List.flatMap_cons, List.filter_append, List.map_append, hnone]
        simp [values, hf, List.filter_map, Function.comp_def]
      · have hother : (f.values.map fun v => (f.name, v)).filter (·.1 == name) = [] := by
          simp [hf]
        have hvalues : (Headers.mk (f :: fields) hd).values name = (Headers.mk fields hd').values name := by
          simp [values, hf]
        rw [hvalues, ← hrest]
        simp only [under, toList]
        rw [List.flatMap_cons, List.filter_append, hother, List.nil_append]

end IsolatedSite.Headers
