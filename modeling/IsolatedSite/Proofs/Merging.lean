import IsolatedSite.Settings.Load

namespace IsolatedSite

namespace Datum

variable {α : Type}

theorem lookup_cons (key other : String) (value : α) (rest : List (String × α)) :
    ((key, value) :: rest).lookup other = if other = key then some value else rest.lookup other := by
  rw [List.lookup_cons]
  by_cases h : other = key
  · rw [if_pos h, beq_iff_eq.2 h]
  · rw [if_neg h, beq_eq_false_iff_ne.2 h]

theorem lookup_put (key other : String) (value : α) (entries : List (String × α)) :
    (put key value entries).lookup other = if other = key then some value else entries.lookup other := by
  induction entries with
  | nil => rw [put, lookup_cons]
  | cons e rest ih =>
      obtain ⟨k, v⟩ := e
      rw [put]
      split
      · next hk =>
        subst hk
        rw [lookup_cons, lookup_cons]
        split <;> rfl
      · next hk =>
        rw [lookup_cons, lookup_cons, ih]
        split
        · next hother => rw [if_neg (hother ▸ hk)]
        · rfl

theorem lookup_eq_none {key : String} {entries : List (String × α)} (h : key ∉ entries.map Prod.fst) :
    entries.lookup key = none := by
  rw [List.lookup_eq_none_iff]
  intro e he
  rw [bne_iff_ne]
  rintro rfl
  exact h (List.mem_map_of_mem he)

theorem mem_put {key : String} {value : α} {entries : List (String × α)} {e : String × α}
    (h : e ∈ put key value entries) : e = (key, value) ∨ e ∈ entries := by
  induction entries with
  | nil => exact Or.inl (List.mem_singleton.1 h)
  | cons first rest ih =>
      obtain ⟨k, v⟩ := first
      rw [put] at h
      split at h
      · next hk =>
        rcases List.mem_cons.1 h with rfl | hrest
        · exact Or.inl (by rw [hk])
        · exact Or.inr (List.mem_cons_of_mem _ hrest)
      · rcases List.mem_cons.1 h with rfl | hrest
        · exact Or.inr List.mem_cons_self
        · exact (ih hrest).imp_right (List.mem_cons_of_mem _)

theorem map_fst_put (key : String) (value : α) (entries : List (String × α)) :
    (put key value entries).map Prod.fst =
      if key ∈ entries.map Prod.fst then entries.map Prod.fst else entries.map Prod.fst ++ [key] := by
  induction entries with
  | nil => rfl
  | cons e rest ih =>
      obtain ⟨k, v⟩ := e
      rw [put]
      by_cases hk : k = key
      · simp [hk]
      · rw [if_neg hk, List.map_cons, ih]
        by_cases hmem : key ∈ rest.map Prod.fst <;> simp [hmem, Ne.symm hk]

theorem nodup_put {key : String} {value : α} {entries : List (String × α)}
    (h : (entries.map Prod.fst).Nodup) : ((put key value entries).map Prod.fst).Nodup := by
  rw [map_fst_put]
  split
  · exact h
  · next hnew =>
    rw [List.nodup_append]
    refine ⟨h, by simp, ?_⟩
    rintro a ha b hb rfl
    exact hnew (List.mem_singleton.1 hb ▸ ha)

end Datum

namespace Value

def isTable : Value → Bool
  | .table _ _ => true
  | _ => false

/-- A table whose values can all be read as texts. -/
structure IsTexts (v : Value) : Prop where
  table : v.isTable = true
  texts : ∀ e ∈ v.asTable.1, ∃ s, e.2.readText = .ok s

theorem lookup?_put (v : Value) (key other : String) (w : Value) :
    (v.put key w).lookup? other = if other = key then some w else v.lookup? other :=
  Datum.lookup_put key other w v.asTable.1

theorem merge_eq (v : Value) (name : String) (w : Value) :
    v.merge name w = v.put (Text.lowercase name)
      (if w.isTable then mergeEntries ((v.lookup? (Text.lowercase name)).getD emptyTable) w.asTable.1
        else w) := by
  cases w with
  | table => rw [merge]; rfl
  | scalar | list =>
      rw [merge]
      · rfl
      · nofun

theorem isTable_mergeEntries {v : Value} (h : v.isTable = true) (fields : List (String × Value)) :
    (mergeEntries v fields).isTable = true := by
  induction fields generalizing v with
  | nil => rwa [mergeEntries]
  | cons e rest ih =>
      rw [mergeEntries, merge_eq]
      exact ih rfl

theorem not_isTable_of_readText {v : Value} (h : ∃ s, v.readText = .ok s) : v.isTable = false := by
  obtain ⟨s, hs⟩ := h
  cases v with
  | table => cases hs
  | _ => rfl

theorem IsTexts.put {v w : Value} (hv : ∀ e ∈ v.asTable.1, ∃ s, e.2.readText = .ok s) (key : String)
    (hw : ∃ s, w.readText = .ok s) : (v.put key w).IsTexts := by
  refine ⟨rfl, fun e he => ?_⟩
  rcases Datum.mem_put he with rfl | he
  · exact hw
  · exact hv e he

theorem IsTexts.mergeEntries {v : Value} (h : v.IsTexts) {fields : List (String × Value)}
    (hfields : ∀ e ∈ fields, ∃ s, e.2.readText = .ok s) : (mergeEntries v fields).IsTexts := by
  induction fields generalizing v with
  | nil => rwa [Value.mergeEntries]
  | cons e rest ih =>
      rw [List.forall_mem_cons] at hfields
      rw [Value.mergeEntries, merge_eq, not_isTable_of_readText hfields.1]
      exact ih (IsTexts.put h.texts _ hfields.1) hfields.2

end Value

namespace Settings

def leaves : List (String × String) :=
  [("server", "bind"), ("server", "port"), ("server", "root"), ("server", "workers"),
    ("logging", "level"), ("logging", "access_log"), ("logging", "access_log_format"),
    ("logging", "access_log_file"), ("logging", "error_log_file"),
    ("performance", "keep_alive"), ("performance", "backlog"), ("performance", "max_connections"),
    ("performance", "header_read_timeout"), ("performance", "connection_timeout"),
    ("http", "server_name")]

def sections : List String := ["server", "logging", "performance", "http"]

/-- A value that a section may have under a key: no table, except for the table of media types. -/
inductive Field : String → String → Value → Prop
  | leaf {sect key v} (hkey : (sect, key) ∈ leaves) (hv : v.isTable = false) : Field sect key v
  | mediaTypes {v} (hv : v.IsTexts) : Field "http" "mime_types" v

variable {sect key name : String} {root v w : Value} {fields : List (String × Value)}

theorem Field.mem_sections (h : Field sect key v) : sect ∈ sections := by
  cases h with
  | leaf hkey =>
      have hall : ∀ leaf ∈ leaves, leaf.1 ∈ sections := by decide
      exact hall _ hkey
  | mediaTypes => decide

theorem Field.lowercase (h : Field sect key v) : Text.lowercase key = key := by
  cases h with
  | leaf hkey =>
      have hall : ∀ leaf ∈ leaves, Text.lowercase leaf.2 = leaf.2 := by decide +kernel
      exact hall _ hkey
  | mediaTypes => decide +kernel

def lastField? {α : Type} (key : String) : List (String × α) → Option α
  | [] => none
  | (name, v) :: rest => (lastField? key rest).or (if Text.lowercase name = key then some v else none)

/-- A table of fields of one section, and of each only once. -/
structure IsSection (sect : String) (v : Value) : Prop where
  distinct : (v.asTable.1.map Prod.fst).Nodup
  fields : ∀ e ∈ v.asTable.1, Field sect e.1 e.2

theorem IsSection.put (h : IsSection sect v) (hw : Field sect key w) :
    IsSection sect (v.put key w) := by
  refine ⟨Datum.nodup_put h.distinct, fun e he => ?_⟩
  rcases Datum.mem_put he with rfl | he
  · exact hw
  · exact h.fields e he

theorem IsSection.field_of_lookup? (h : IsSection sect v) (hv : v.lookup? key = some w) :
    Field sect key w := by
  obtain ⟨before, after, hentries, -⟩ := List.lookup_eq_some_iff.1 hv
  exact h.fields (key, w) (hentries ▸ List.mem_append_right before List.mem_cons_self)

theorem IsSection.merge (h : IsSection sect v) (hw : Field sect (Text.lowercase name) w) :
    IsSection sect (v.merge name w) ∧ ∀ key, (sect, key) ∈ leaves →
      (v.merge name w).lookup? key = if Text.lowercase name = key then some w else v.lookup? key := by
  rw [Value.merge_eq]
  generalize Text.lowercase name = found at hw
  cases hw with
  | leaf hkey hw =>
      rw [hw, if_neg nofun]
      refine ⟨h.put (.leaf hkey hw), fun key _ => ?_⟩
      rw [Value.lookup?_put]
      simp only [eq_comm]
  | mediaTypes hw =>
      rw [hw.table, if_pos rfl]
      have hold : ((v.lookup? "mime_types").getD .emptyTable).IsTexts := by
        cases hfound : v.lookup? "mime_types" with
        | none => exact ⟨rfl, fun _ he => absurd he List.not_mem_nil⟩
        | some old =>
            cases h.field_of_lookup? hfound with
            | leaf hkey => exact absurd hkey (by decide)
            | mediaTypes hold => exact hold
      refine ⟨h.put (.mediaTypes (hold.mergeEntries hw.texts)), fun key hkey => ?_⟩
      have hne : key ≠ "mime_types" := by
        rintro rfl
        exact absurd hkey (by decide)
      rw [Value.lookup?_put, if_neg hne, if_neg (Ne.symm hne)]

theorem IsSection.mergeEntries (h : IsSection sect v)
    (hfields : ∀ e ∈ fields, Field sect (Text.lowercase e.1) e.2) :
    IsSection sect (v.mergeEntries fields) ∧ ∀ key, (sect, key) ∈ leaves →
      (v.mergeEntries fields).lookup? key = (lastField? key fields).or (v.lookup? key) := by
  induction fields generalizing v with
  | nil =>
      rw [Value.mergeEntries]
      exact ⟨h, fun _ _ => rfl⟩
  | cons e rest ih =>
      rw [List.forall_mem_cons] at hfields
      obtain ⟨hsection, hlookup⟩ := h.merge hfields.1
      obtain ⟨hrest, hlast⟩ := ih hsection hfields.2
      rw [Value.mergeEntries]
      refine ⟨hrest, fun key hkey => ?_⟩
      rw [hlast key hkey, hlookup key hkey, lastField?, Option.or_assoc]
      split <;> rfl

/-- A table of sections, and of each only once. -/
structure IsSectioned (root : Value) : Prop where
  distinct : (root.asTable.1.map Prod.fst).Nodup
  sections : ∀ e ∈ root.asTable.1, e.1 ∈ sections ∧ e.2.isTable = true ∧ IsSection e.1 e.2

def leaf? (root : Value) (leaf : String × String) : Option Value :=
  (root.lookup? leaf.1).bind fun v => v.lookup? leaf.2

theorem IsSectioned.put (h : IsSectioned root) (hsect : sect ∈ Settings.sections) (htable : v.isTable = true)
    (hv : IsSection sect v) : IsSectioned (root.put sect v) := by
  refine ⟨Datum.nodup_put h.distinct, fun e he => ?_⟩
  rcases Datum.mem_put he with rfl | he
  · exact ⟨hsect, htable, hv⟩
  · exact h.sections e he

theorem leaf?_put (root : Value) (sect : String) (v : Value) (leaf : String × String) :
    leaf? (root.put sect v) leaf = if leaf.1 = sect then v.lookup? leaf.2 else leaf? root leaf := by
  rw [leaf?, Value.lookup?_put]
  split <;> rfl

theorem IsSectioned.section_of_lookup? (h : IsSectioned root) (hv : root.lookup? sect = some v) :
    v.isTable = true ∧ IsSection sect v := by
  obtain ⟨before, after, hentries, -⟩ := List.lookup_eq_some_iff.1 hv
  exact (h.sections (sect, v) (hentries ▸ List.mem_append_right before List.mem_cons_self)).2

theorem IsSectioned.isSection (h : IsSectioned root) (sect : String) (hnone : v.asTable.1 = []) :
    IsSection sect ((root.lookup? sect).getD v) := by
  cases hfound : root.lookup? sect with
  | none =>
      rw [Option.getD_none]
      exact ⟨by rw [hnone]; exact List.nodup_nil, by rw [hnone]; nofun⟩
  | some w => exact (h.section_of_lookup? hfound).2

theorem IsSectioned.isTable_section (h : IsSectioned root) (sect : String) :
    ((root.lookup? sect).getD .emptyTable).isTable = true := by
  cases hfound : root.lookup? sect with
  | none => rfl
  | some w => exact (h.section_of_lookup? hfound).1

theorem leaf?_of_lookup? (h : root.lookup? sect = some v) :
    (fun key => leaf? root (sect, key)) = v.lookup? := by
  funext key
  rw [leaf?, h]
  rfl

theorem leaf?_eq_getD (hnone : v.asTable.1 = []) (root : Value) (leaf : String × String) :
    leaf? root leaf = ((root.lookup? leaf.1).getD v).lookup? leaf.2 := by
  rw [leaf?]
  cases root.lookup? leaf.1 with
  | none => rw [Option.getD_none, Value.lookup?, hnone]; rfl
  | some w => rfl

/-- An entry of a layer that sets fields of one section. -/
inductive SetsFields (e : String × Value) : Prop
  | table {name : String} (hpath : KeyPath.ofText e.1 = ⟨name, []⟩) (hname : Text.lowercase name ∈ sections)
      (htable : e.2.isTable = true)
      (hfields : ∀ f ∈ e.2.asTable.1, Field (Text.lowercase name) (Text.lowercase f.1) f.2)
  | dotted {sect name : String} (hpath : KeyPath.ofText e.1 = ⟨sect, [.name name]⟩)
      (hfield : Field sect (Text.lowercase name) e.2)
  | mediaType {name : String} (hpath : KeyPath.ofText e.1 = ⟨"http", [.name "mime_types", .name name]⟩)
      (htext : ∃ s, e.2.readText = .ok s)

def entryLeaf? (e : String × Value) (leaf : String × String) : Option Value :=
  match KeyPath.ofText e.1 with
  | ⟨name, []⟩ => if Text.lowercase name = leaf.1 then lastField? leaf.2 e.2.asTable.1 else none
  | ⟨sect, [.name name]⟩ => if sect = leaf.1 ∧ Text.lowercase name = leaf.2 then some e.2 else none
  | _ => none

def SetIn (e : String × Value) (root root' : Value) : Prop :=
  (KeyPath.ofText e.1).set? root e.2 = some root' ∧ IsSectioned root' ∧
    ∀ leaf ∈ leaves, leaf? root' leaf = (entryLeaf? e leaf).or (leaf? root leaf)

variable {e : String × Value}

theorem IsSectioned.setIn_table (h : IsSectioned root) (hpath : KeyPath.ofText e.1 = ⟨name, []⟩)
    (hname : Text.lowercase name ∈ Settings.sections) (htable : e.2.isTable = true)
    (hfields : ∀ f ∈ e.2.asTable.1, Field (Text.lowercase name) (Text.lowercase f.1) f.2) :
    ∃ root', SetIn e root root' := by
  obtain ⟨hnew, hlookup⟩ := (h.isSection (Text.lowercase name) (v := .emptyTable) rfl).mergeEntries hfields
  have hset : (KeyPath.ofText e.1).set? root e.2 = some (root.merge name e.2) := by
    rw [hpath]
    rfl
  rw [Value.merge_eq, if_pos htable] at hset
  refine ⟨_, hset, h.put hname (Value.isTable_mergeEntries (h.isTable_section _) _) hnew, ?_⟩
  intro leaf hleaf
  rw [leaf?_put, entryLeaf?, hpath]
  by_cases hsect : leaf.1 = Text.lowercase name
  · rw [if_pos hsect, hlookup leaf.2 (hsect ▸ hleaf), leaf?_eq_getD (v := .emptyTable) rfl]
    simp only [hsect, if_true]
  · rw [if_neg hsect]
    simp only [Ne.symm hsect, if_false, Option.none_or]

theorem IsSectioned.setIn_dotted (h : IsSectioned root) (hpath : KeyPath.ofText e.1 = ⟨sect, [.name name]⟩)
    (hfield : Field sect (Text.lowercase name) e.2) : ∃ root', SetIn e root root' := by
  obtain ⟨hnew, hlookup⟩ := (h.isSection sect (v := .nothing) rfl).merge hfield
  have hset : (KeyPath.ofText e.1).set? root e.2 =
      some (root.put sect (((root.lookup? sect).getD .nothing).merge name e.2)) := by
    rw [hpath]
    rfl
  refine ⟨_, hset, h.put hfield.mem_sections (by rw [Value.merge_eq]; rfl) hnew, fun leaf hleaf => ?_⟩
  rw [leaf?_put, entryLeaf?, hpath]
  by_cases hsect : leaf.1 = sect
  · subst hsect
    rw [if_pos rfl, hlookup leaf.2 hleaf, leaf?_eq_getD (v := .nothing) rfl]
    split <;> simp_all
  · rw [if_neg hsect]
    simp only [Ne.symm hsect, false_and, if_false, Option.none_or]

theorem IsSectioned.setIn_mediaType (h : IsSectioned root)
    (hpath : KeyPath.ofText e.1 = ⟨"http", [.name "mime_types", .name name]⟩)
    (htext : ∃ s, e.2.readText = .ok s) : ∃ root', SetIn e root root' := by
  have hold := h.isSection "http" (v := .nothing) rfl
  have hset : (KeyPath.ofText e.1).set? root e.2 =
      some (root.put "http" (((root.lookup? "http").getD .nothing).put "mime_types"
        (((((root.lookup? "http").getD .nothing).lookup? "mime_types").getD .nothing).merge name e.2))) := by
    rw [hpath]
    rfl
  have htexts : ∀ f ∈ ((((root.lookup? "http").getD .nothing).lookup? "mime_types").getD .nothing).asTable.1,
      ∃ s, f.2.readText = .ok s := by
    cases hfound : ((root.lookup? "http").getD .nothing).lookup? "mime_types" with
    | none => nofun
    | some old =>
        cases hold.field_of_lookup? hfound with
        | leaf hkey => exact absurd hkey (by decide)
        | mediaTypes hold => exact hold.texts
  rw [Value.merge_eq, Value.not_isTable_of_readText htext, if_neg nofun] at hset
  refine ⟨_, hset, h.put (by decide) rfl (hold.put (.mediaTypes (.put htexts _ htext))), fun leaf hleaf => ?_⟩
  rw [leaf?_put, entryLeaf?, hpath]
  simp only [Option.none_or]
  split
  · next hsect =>
    have hne : leaf.2 ≠ "mime_types" := by
      intro hkey
      have hall : ∀ leaf ∈ leaves, leaf.2 ≠ "mime_types" := by decide
      exact hall leaf hleaf hkey
    rw [Value.lookup?_put, if_neg hne, leaf?_eq_getD (v := .nothing) rfl, hsect]
  · rfl

theorem SetsFields.setIn (he : SetsFields e) (h : IsSectioned root) : ∃ root', SetIn e root root' := by
  cases he with
  | table hpath hname htable hfields => exact h.setIn_table hpath hname htable hfields
  | dotted hpath hfield => exact h.setIn_dotted hpath hfield
  | mediaType hpath htext => exact h.setIn_mediaType hpath htext

end Settings

namespace Layer

open Settings

/-- A layer that sets fields of sections and nothing else. -/
def Regular (layer : Layer) : Prop := ∀ e ∈ layer, SetsFields e

def leaf? (leaf : String × String) : Layer → Option Value
  | [] => none
  | e :: rest => (leaf? leaf rest).or (entryLeaf? e leaf)

/-- A layer laid over a root hides what it sets itself, and succeeds. -/
theorem Regular.over? {layer : Layer} (h : layer.Regular) {root : Value} (hroot : IsSectioned root) :
    ∃ root', layer.over? root = some root' ∧ IsSectioned root' ∧
      ∀ leaf ∈ leaves, Settings.leaf? root' leaf = (layer.leaf? leaf).or (Settings.leaf? root leaf) := by
  induction layer generalizing root with
  | nil => exact ⟨root, rfl, hroot, fun _ _ => rfl⟩
  | cons e rest ih =>
      rw [Regular, List.forall_mem_cons] at h
      obtain ⟨mid, hset, hmid, hleaf⟩ := h.1.setIn hroot
      obtain ⟨root', hover, hroot', hrest⟩ := ih h.2 hmid
      refine ⟨root', ?_, hroot', fun leaf hmem => ?_⟩
      · rw [Layer.over?, List.foldlM_cons, hset]
        exact hover
      · rw [hrest leaf hmem, hleaf leaf hmem, leaf?, Option.or_assoc]

theorem lastField?_eq_lookup {fields : List (String × Value)} (hdistinct : (fields.map Prod.fst).Nodup)
    (hlower : ∀ f ∈ fields, Text.lowercase f.1 = f.1) (key : String) :
    lastField? key fields = fields.lookup key := by
  induction fields with
  | nil => rfl
  | cons f rest ih =>
      rw [List.map_cons, List.nodup_cons] at hdistinct
      rw [List.forall_mem_cons] at hlower
      rw [lastField?, ih hdistinct.2 hlower.2, hlower.1, Datum.lookup_cons]
      by_cases hkey : key = f.1
      · rw [Datum.lookup_eq_none (hkey ▸ hdistinct.1), if_pos hkey, if_pos hkey.symm, Option.none_or]
      · rw [if_neg hkey, if_neg (Ne.symm hkey), Option.or_none]

theorem plain_of_mem_sections {sect : String} (h : sect ∈ sections) :
    KeyPath.ofText sect = ⟨sect, []⟩ ∧ Text.lowercase sect = sect := by
  have hall : ∀ sect ∈ sections, KeyPath.ofText sect = ⟨sect, []⟩ ∧ Text.lowercase sect = sect := by
    decide +kernel
  exact hall sect h

theorem entryLeaf?_of_isSection {e : String × Value} (hsect : e.1 ∈ sections) (h : IsSection e.1 e.2)
    (leaf : String × String) :
    entryLeaf? e leaf = if e.1 = leaf.1 then e.2.lookup? leaf.2 else none := by
  obtain ⟨hpath, hlower⟩ := plain_of_mem_sections hsect
  simp only [entryLeaf?, hpath, hlower]
  rw [lastField?_eq_lookup h.distinct fun f hf => (h.fields f hf).lowercase]
  rfl

theorem leaf?_eq_bind {entries : Layer} (hdistinct : (entries.map Prod.fst).Nodup)
    (h : ∀ e ∈ entries, e.1 ∈ sections ∧ e.2.isTable = true ∧ IsSection e.1 e.2) (leaf : String × String) :
    leaf? leaf entries = (entries.lookup leaf.1).bind fun v => v.lookup? leaf.2 := by
  induction entries with
  | nil => rfl
  | cons e rest ih =>
      rw [List.map_cons, List.nodup_cons] at hdistinct
      rw [List.forall_mem_cons] at h
      rw [leaf?, ih hdistinct.2 h.2, entryLeaf?_of_isSection h.1.1 h.1.2.2, Datum.lookup_cons]
      by_cases hsect : leaf.1 = e.1
      · rw [Datum.lookup_eq_none (hsect ▸ hdistinct.1), if_pos hsect, if_pos hsect.symm]
        rfl
      · rw [if_neg hsect, if_neg (Ne.symm hsect), Option.or_none]

theorem regular_asTable {root : Value} (h : IsSectioned root) :
    Regular root.asTable.1 ∧ ∀ leaf, leaf? leaf root.asTable.1 = Settings.leaf? root leaf := by
  refine ⟨fun e he => ?_, fun leaf => leaf?_eq_bind h.distinct h.sections leaf⟩
  obtain ⟨hsect, htable, hsection⟩ := h.sections e he
  obtain ⟨hpath, hlower⟩ := plain_of_mem_sections hsect
  refine .table hpath (hlower.symm ▸ hsect) htable fun f hf => ?_
  have hfield := hsection.fields f hf
  rw [hlower, hfield.lowercase]
  exact hfield

theorem isSectioned_emptyTable : IsSectioned .emptyTable := ⟨List.nodup_nil, nofun⟩

theorem Regular.stack? {file env : Layer} (hfile : file.Regular) (henv : env.Regular) :
    ∃ sources, Layer.stack? [file, env] = some sources ∧ sources.Regular ∧
      ∀ leaf ∈ leaves, sources.leaf? leaf = (env.leaf? leaf).or (file.leaf? leaf) := by
  obtain ⟨low, hlow, hsectioned, hfileLeaf⟩ := hfile.over? isSectioned_emptyTable
  obtain ⟨high, hhigh, hsectioned, henvLeaf⟩ := henv.over? hsectioned
  obtain ⟨hregular, hleaf⟩ := regular_asTable hsectioned
  refine ⟨high.asTable.1, ?_, hregular, fun leaf hmem => ?_⟩
  · simp only [Layer.stack?, List.foldlM_cons, List.foldlM_nil, hlow, hhigh, Option.bind_eq_bind,
      Option.bind_some, Option.pure_def, Option.map_some]
  · have hnone : Settings.leaf? .emptyTable leaf = none := rfl
    rw [hleaf, henvLeaf leaf hmem, hfileLeaf leaf hmem, hnone, Option.or_none]

end Layer

namespace Settings

/-- Each leaf is what the highest layer says that says anything. -/
theorem merged?_of_regular {defaults file env arguments : Layer} (hdefaults : defaults.Regular)
    (hfile : file.Regular) (henv : env.Regular) (harguments : arguments.Regular) :
    ∃ root, merged? defaults file env arguments = some root ∧ IsSectioned root ∧
      ∀ leaf ∈ leaves, leaf? root leaf =
        (arguments.leaf? leaf).or ((env.leaf? leaf).or ((file.leaf? leaf).or (defaults.leaf? leaf))) := by
  obtain ⟨sources, hstack, hsources, hsourcesLeaf⟩ := hfile.stack? henv
  obtain ⟨low, hlow, hsectioned, hlowLeaf⟩ := hdefaults.over? Layer.isSectioned_emptyTable
  obtain ⟨mid, hmid, hsectioned, hmidLeaf⟩ := hsources.over? hsectioned
  obtain ⟨high, hhigh, hsectioned, hhighLeaf⟩ := harguments.over? hsectioned
  refine ⟨high, ?_, hsectioned, fun leaf hmem => ?_⟩
  · simp only [merged?, hstack, hlow, hmid, Option.bind_eq_bind, Option.bind_some]
    exact hhigh
  · have hnone : leaf? .emptyTable leaf = none := rfl
    rw [hhighLeaf leaf hmem, hmidLeaf leaf hmem, hlowLeaf leaf hmem, hsourcesLeaf leaf hmem, hnone,
      Option.or_none, Option.or_assoc]

end Settings

end IsolatedSite
