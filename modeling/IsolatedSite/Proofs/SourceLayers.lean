import IsolatedSite.Proofs.Merging

namespace IsolatedSite

open Settings

namespace KeyPath

theorem splitName?_append {name rest : List Char} (hne : name ≠ [])
    (hname : name.all isNameChar = true) (hrest : rest.takeWhile isNameChar = []) :
    splitName? (name ++ rest) = some (String.ofList name, rest) := by
  have htake : (name ++ rest).takeWhile isNameChar = name := by
    rw [List.takeWhile_append_of_pos (List.all_eq_true.1 hname), hrest, List.append_nil]
  rw [splitName?, htake, if_neg (by simpa using hne), List.drop_left]

theorem splitName?_dot {name : List Char} (hne : name ≠ []) (hname : name.all isNameChar = true)
    (rest : List Char) : splitName? (name ++ '.' :: rest) = some (String.ofList name, '.' :: rest) :=
  splitName?_append hne hname (List.takeWhile_cons_of_neg (by decide))

theorem splitName?_end {name : List Char} (hne : name ≠ []) (hname : name.all isNameChar = true) :
    splitName? name = some (String.ofList name, []) := by
  have h := splitName?_append hne hname List.takeWhile_nil
  rwa [List.append_nil] at h

theorem eq_of_path {leaf other : String × String}
    (h : (⟨leaf.1, [.name leaf.2]⟩ : KeyPath) = ⟨other.1, [.name other.2]⟩) : leaf = other := by
  simp only [mk.injEq, List.cons.injEq, KeyStep.name.injEq, and_true] at h
  exact Prod.ext h.1 h.2

end KeyPath

namespace Layer

/-- The key under which a layer sets a leaf. -/
def dottedKey (leaf : String × String) : String := leaf.1 ++ "." ++ leaf.2

structure IsDotted (layer : Layer) : Prop where
  distinct : (layer.map Prod.fst).Nodup
  leaves : ∀ e ∈ layer, e.1 ∈ leaves.map dottedKey ∧ e.2.isTable = false

theorem ofText_dottedKey {leaf : String × String} (h : leaf ∈ Settings.leaves) :
    KeyPath.ofText (dottedKey leaf) = ⟨leaf.1, [.name leaf.2]⟩ := by
  have hall : ∀ leaf ∈ Settings.leaves, KeyPath.ofText (dottedKey leaf) = ⟨leaf.1, [.name leaf.2]⟩ := by
    decide +kernel
  exact hall leaf h

theorem lowercase_leaf {leaf : String × String} (h : leaf ∈ Settings.leaves) :
    Text.lowercase leaf.2 = leaf.2 :=
  Field.lowercase (v := .nothing) (.leaf h rfl)

theorem entryLeaf?_of_path {e : String × Value} {leaf other : String × String}
    (hpath : KeyPath.ofText e.1 = ⟨leaf.1, [.name leaf.2]⟩) (h : leaf ∈ Settings.leaves) :
    entryLeaf? e other = if leaf = other then some e.2 else none := by
  simp only [entryLeaf?, hpath, lowercase_leaf h, Prod.ext_iff]

theorem setsFields_of_path {e : String × Value} (leaf : String × String)
    (hpath : KeyPath.ofText e.1 = ⟨leaf.1, [.name leaf.2]⟩) (h : leaf ∈ Settings.leaves)
    (hv : e.2.isTable = false) : SetsFields e :=
  .dotted hpath (by rw [lowercase_leaf h]; exact .leaf h hv)

theorem leaf?_append (low high : Layer) (leaf : String × String) :
    leaf? leaf (low ++ high) = (leaf? leaf high).or (leaf? leaf low) := by
  induction low with
  | nil => exact Option.or_none.symm
  | cons e rest ih => rw [List.cons_append, leaf?, leaf?, ih, Option.or_assoc]

theorem leaf?_toList {α : Type} {key : String} (own : String × String)
    (hpath : KeyPath.ofText key = ⟨own.1, [.name own.2]⟩) (h : own ∈ Settings.leaves) (x? : Option α)
    (value : α → Value) (leaf : String × String) :
    leaf? leaf (x?.map fun x => (key, value x)).toList = if own = leaf then x?.map value else none := by
  cases x? with
  | none => exact (ite_self none).symm
  | some x => exact entryLeaf?_of_path hpath h

theorem IsDotted.regular {layer : Layer} (h : layer.IsDotted) : layer.Regular := by
  intro e he
  obtain ⟨hkey, hv⟩ := h.leaves e he
  obtain ⟨leaf, hleaf, hkey⟩ := List.mem_map.1 hkey
  exact setsFields_of_path leaf (hkey ▸ ofText_dottedKey hleaf) hleaf hv

theorem IsDotted.leaf?_eq_lookup {layer : Layer} (h : layer.IsDotted) {leaf : String × String}
    (hleaf : leaf ∈ Settings.leaves) : layer.leaf? leaf = layer.lookup (dottedKey leaf) := by
  obtain ⟨hdistinct, hleaves⟩ := h
  induction layer with
  | nil => rfl
  | cons e rest ih =>
      rw [List.map_cons, List.nodup_cons] at hdistinct
      rw [List.forall_mem_cons] at hleaves
      obtain ⟨other, hother, hkey⟩ := List.mem_map.1 hleaves.1.1
      have hpath := ofText_dottedKey hother
      rw [leaf?, ih hdistinct.2 hleaves.2, entryLeaf?_of_path (hkey ▸ hpath) hother, Datum.lookup_cons]
      by_cases heq : other = leaf
      · rw [heq] at hkey
        rw [Datum.lookup_eq_none (hkey ▸ hdistinct.1), if_pos heq, if_pos hkey, Option.none_or]
      · have hne : dottedKey leaf ≠ e.1 := by
          intro h
          rw [hkey, ← h, ofText_dottedKey hleaf] at hpath
          exact heq (KeyPath.eq_of_path hpath.symm)
        rw [if_neg heq, if_neg hne, Option.or_none]

end Layer

namespace Environment

/-- The name of the variable for a leaf, in lower case. -/
def variableName (leaf : String × String) : String := marker ++ leaf.1 ++ "__" ++ leaf.2

def setting? (env : Environment) (leaf : String × String) : Option Value :=
  (lastField? (variableName leaf) env).map fun s => .scalar (.text s) (some origin)

inductive IsVariable : String → Prop
  | leaf {leaf : String × String} (h : leaf ∈ leaves) : IsVariable (variableName leaf)
  | mediaType {ext : List Char} (hne : ext ≠ []) (hplain : ext.all KeyPath.isNameChar = true)
      (hwhole : ¬ ['_', '_'] <:+: ext) : IsVariable (variableName ("http", "mime_types__" ++ String.ofList ext))

/-- An environment in which everything that is for the program is for one of its settings. -/
def Regular (env : Environment) : Prop :=
  ∀ e ∈ env, marker.toList <+: (Text.lowercase e.1).toList → IsVariable (Text.lowercase e.1)

def path (name : String) : KeyPath :=
  KeyPath.ofText (String.ofList (dotted (name.toList.drop marker.length)))

theorem dotted_of_not_infix {cs : List Char} (h : ¬ ['_', '_'] <:+: cs) : dotted cs = cs := by
  fun_induction dotted cs with
  | case1 rest ih => exact absurd ⟨[], rest, rfl⟩ h
  | case2 c rest hc ih => rw [ih fun hrest => h (hrest.trans (List.suffix_cons c rest).isInfix)]
  | case3 => rfl

theorem path_variableName {leaf : String × String} (h : leaf ∈ leaves) :
    path (variableName leaf) = ⟨leaf.1, [.name leaf.2]⟩ := by
  have hall : ∀ leaf ∈ leaves, path (variableName leaf) = ⟨leaf.1, [.name leaf.2]⟩ := by decide +kernel
  exact hall leaf h

theorem path_mediaType {ext : List Char} (hne : ext ≠ []) (hplain : ext.all KeyPath.isNameChar = true)
    (hwhole : ¬ ['_', '_'] <:+: ext) :
    path (variableName ("http", "mime_types__" ++ String.ofList ext)) =
      ⟨"http", [.name "mime_types", .name (String.ofList ext)]⟩ := by
  have hdrop : (variableName ("http", "mime_types__" ++ String.ofList ext)).toList.drop marker.length =
      "http".toList ++ "__".toList ++ ("mime_types__".toList ++ ext) := by
    simp only [variableName, String.toList_append, String.toList_ofList, List.append_assoc]
    rw [← String.length_toList, List.drop_left]
  have hdotted : dotted ("http".toList ++ "__".toList ++ ("mime_types__".toList ++ ext)) =
      "http".toList ++ '.' :: ("mime_types".toList ++ '.' :: ext) := by
    simp [dotted, dotted_of_not_infix hwhole]
  have hhttp : "http".toList.all KeyPath.isNameChar = true := by decide
  have htypes : "mime_types".toList.all KeyPath.isNameChar = true := by decide
  have hfirst := KeyPath.splitName?_dot (by decide) hhttp ("mime_types".toList ++ '.' :: ext)
  have hsecond := KeyPath.splitName?_dot (by decide) htypes ext
  rw [path, hdrop, hdotted, KeyPath.ofText, KeyPath.parse?, String.toList_ofList, hfirst]
  simp only [List.length_cons, List.length_append, Nat.add_succ, KeyPath.readSteps?, hsecond,
    KeyPath.splitName?_end hne hplain, Option.map_some, Option.getD_some, String.ofList_toList]

theorem afterMarker?_eq (name : String) :
    afterMarker? name =
      if marker.toList <+: (Text.lowercase name).toList then
        some ((Text.lowercase name).toList.drop marker.length)
      else none := by
  simp only [afterMarker?, List.isPrefixOf_iff_prefix]

theorem layer_cons (e : String × String) (rest : Environment) :
    layer (e :: rest) =
      if marker.toList <+: (Text.lowercase e.1).toList then
        (String.ofList (dotted ((Text.lowercase e.1).toList.drop marker.length)),
          .scalar (.text e.2) (some origin)) :: layer rest
      else layer rest := by
  obtain ⟨name, value⟩ := e
  rw [layer, List.filterMap_cons]
  dsimp only
  rw [afterMarker?_eq]
  by_cases h : marker.toList <+: (Text.lowercase name).toList
  · rw [if_pos h, if_pos h]
    rfl
  · rw [if_neg h, if_neg h]
    rfl

theorem marker_variableName (leaf : String × String) : marker.toList <+: (variableName leaf).toList := by
  rw [variableName, String.toList_append, String.toList_append, String.toList_append]
  simp only [List.append_assoc, List.prefix_append]

theorem variableName_inj {leaf other : String × String} (hleaf : leaf ∈ leaves) (hother : other ∈ leaves)
    (h : variableName leaf = variableName other) : leaf = other := by
  have hpath := path_variableName hleaf
  rw [h, path_variableName hother] at hpath
  exact KeyPath.eq_of_path hpath.symm

theorem IsVariable.setsFields {name : String} {e : String × Value} (h : IsVariable name)
    (hpath : KeyPath.ofText e.1 = path name) (hv : ∃ s, e.2.readText = .ok s) :
    SetsFields e ∧ ∀ leaf ∈ leaves,
      entryLeaf? e leaf = if name = variableName leaf then some e.2 else none := by
  cases h with
  | @leaf own hown =>
      rw [path_variableName hown] at hpath
      refine ⟨Layer.setsFields_of_path own hpath hown (Value.not_isTable_of_readText hv), fun leaf hleaf => ?_⟩
      rw [Layer.entryLeaf?_of_path hpath hown]
      by_cases hname : own = leaf
      · rw [if_pos hname, if_pos (congrArg variableName hname)]
      · rw [if_neg hname, if_neg fun h => hname (variableName_inj hown hleaf h)]
  | @mediaType ext hne hplain hwhole =>
      have hown := path_mediaType hne hplain hwhole
      refine ⟨.mediaType (hpath.trans hown) hv, fun leaf hleaf => ?_⟩
      have hname : variableName ("http", "mime_types__" ++ String.ofList ext) ≠ variableName leaf := by
        intro h
        rw [h, path_variableName hleaf, KeyPath.mk.injEq, List.cons.injEq] at hown
        exact absurd hown.2.2 (List.cons_ne_nil _ _).symm
      rw [if_neg hname]
      simp only [entryLeaf?, hpath, hown]

theorem Regular.layer {env : Environment} (h : env.Regular) :
    env.layer.Regular ∧ ∀ leaf ∈ leaves, env.layer.leaf? leaf = env.setting? leaf := by
  induction env with
  | nil => exact ⟨nofun, fun _ _ => rfl⟩
  | cons e rest ih =>
      rw [Regular, List.forall_mem_cons] at h
      obtain ⟨hregular, hleaf⟩ := ih h.2
      rw [layer_cons]
      split
      · next hmarker =>
        obtain ⟨hsets, hentry⟩ := (h.1 hmarker).setsFields
          (e := (String.ofList (dotted ((Text.lowercase e.1).toList.drop marker.length)),
            .scalar (.text e.2) (some origin))) rfl ⟨e.2, rfl⟩
        refine ⟨List.forall_mem_cons.2 ⟨hsets, hregular⟩, fun leaf hmem => ?_⟩
        rw [Layer.leaf?, hleaf leaf hmem, hentry leaf hmem, setting?, setting?, lastField?]
        by_cases hname : Text.lowercase e.1 = variableName leaf
        · rw [if_pos hname, if_pos hname]
          cases lastField? (variableName leaf) rest <;> rfl
        · rw [if_neg hname, if_neg hname, Option.or_none, Option.or_none]
      · next hmarker =>
        refine ⟨hregular, fun leaf hmem => ?_⟩
        have hname : Text.lowercase e.1 ≠ variableName leaf := by
          intro h
          exact hmarker (h ▸ marker_variableName leaf)
        rw [hleaf leaf hmem, setting?, setting?, lastField?, if_neg hname, Option.or_none]

end Environment

namespace Arguments

def given? (a : Arguments) (leaf : String × String) : Option Value :=
  if leaf = ("server", "bind") then a.bind.map .text
  else if leaf = ("server", "port") then a.port.map .nat
  else if leaf = ("server", "root") then a.dir.map fun d => .text (Utf8.lossyText d)
  else none

theorem path_options :
    KeyPath.ofText "server.bind" = ⟨"server", [.name "bind"]⟩ ∧
      KeyPath.ofText "server.port" = ⟨"server", [.name "port"]⟩ ∧
      KeyPath.ofText "server.root" = ⟨"server", [.name "root"]⟩ := by
  decide +kernel

theorem regular_layer (a : Arguments) : a.layer.Regular := by
  obtain ⟨hbind, hport, hroot⟩ := path_options
  intro e he
  simp only [layer, List.mem_append, Option.mem_toList, Option.map_eq_some_iff] at he
  rcases he with (⟨s, -, rfl⟩ | ⟨n, -, rfl⟩) | ⟨d, -, rfl⟩
  · exact Layer.setsFields_of_path ("server", "bind") hbind (by decide) rfl
  · exact Layer.setsFields_of_path ("server", "port") hport (by decide) rfl
  · exact Layer.setsFields_of_path ("server", "root") hroot (by decide) rfl

theorem leaf?_layer (a : Arguments) (leaf : String × String) : a.layer.leaf? leaf = a.given? leaf := by
  obtain ⟨hbind, hport, hroot⟩ := path_options
  rw [layer, Layer.leaf?_append, Layer.leaf?_append, Layer.leaf?_toList ("server", "bind") hbind (by decide),
    Layer.leaf?_toList ("server", "port") hport (by decide),
    Layer.leaf?_toList ("server", "root") hroot (by decide), given?]
  by_cases hb : leaf = ("server", "bind")
  · subst hb
    rw [if_neg (by decide), if_neg (by decide), if_pos rfl, if_pos rfl]
    rfl
  by_cases hp : leaf = ("server", "port")
  · subst hp
    rw [if_neg (by decide), if_pos rfl, if_neg (by decide), if_neg hb, if_pos rfl]
    exact Option.or_none
  · rw [if_neg (Ne.symm hp), if_neg (Ne.symm hb), if_neg hb, if_neg hp, Option.or_none, Option.or_none]
    simp only [eq_comm]

end Arguments

namespace Settings

def builtIn? (here : Bytes) (leaf : String × String) : Option Value :=
  (defaults here).lookup (Layer.dottedKey leaf)

theorem isDotted_defaults (here : Bytes) : (defaults here).IsDotted := by
  have hkeys : ((defaults here).map Prod.fst).Nodup ∧
      ∀ key ∈ (defaults here).map Prod.fst, key ∈ leaves.map Layer.dottedKey := by
    simp only [defaults, List.map_cons, List.map_nil]
    decide
  refine ⟨hkeys.1, fun e he => ⟨hkeys.2 e.1 (List.mem_map_of_mem he), ?_⟩⟩
  simp only [defaults, List.mem_cons, List.not_mem_nil, or_false] at he
  rcases he with rfl | rfl | rfl | rfl | rfl | rfl | rfl | rfl | rfl <;> rfl

end Settings

end IsolatedSite
