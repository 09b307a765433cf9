import IsolatedSite.MediaType

namespace IsolatedSite

namespace Text

theorem toLower_cases (c : Char) :
    c.toLower = c ∧ ¬(65 ≤ c.toNat ∧ c.toNat ≤ 90) ∨
      c.toLower.toNat = c.toNat + 32 ∧ 65 ≤ c.toNat ∧ c.toNat ≤ 90 := by
  by_cases h : c.val ≥ 'A'.val ∧ c.val ≤ 'Z'.val
  · right
    have hval : c.toLower.val = c.val + ('a'.val - 'A'.val) := congrArg Char.val (dif_pos h)
    have hnat : 65 ≤ c.toNat ∧ c.toNat ≤ 90 := h
    refine ⟨?_, hnat⟩
    have hadd : c.toLower.toNat = (c.toNat + 32) % 2 ^ 32 := congrArg UInt32.toNat hval
    omega
  · left
    exact ⟨dif_neg h, h⟩

theorem toLower_toLower (c : Char) : c.toLower.toLower = c.toLower := by
  rcases toLower_cases c with ⟨hsame, -⟩ | ⟨hnat, hlow, -⟩
  · rw [hsame, hsame]
  · rcases toLower_cases c.toLower with ⟨hsame, -⟩ | ⟨-, -, hhigh⟩
    · exact hsame
    · omega

theorem toLower_eq_dot_iff {c : Char} : c.toLower = '.' ↔ c = '.' := by
  rcases toLower_cases c with ⟨hsame, -⟩ | ⟨hnat, hlow, hhigh⟩
  · rw [hsame]
  · have hdot : '.'.toNat = 46 := rfl
    constructor
    · intro h
      rw [h, hdot] at hnat
      omega
    · rintro rfl
      rw [hdot] at hlow
      omega

theorem map_toLower_toLower (cs : List Char) :
    (cs.map Char.toLower).map Char.toLower = cs.map Char.toLower := by
  rw [List.map_map]
  exact List.map_congr_left fun c _ => toLower_toLower c

end Text

namespace MediaTypes

structure IsNormal (key : String) : Prop where
  lower : Text.asciiLower key = key
  filled : key ≠ ""
  dotless : key.toList.head? ≠ some '.'

def Normal (t : MediaTypes) : Prop := ∀ e ∈ t.entries, IsNormal e.1

/-- A layer has a key whose normal form is the extension, with this type. -/
def Gives (layer : List (String × String)) (ext type : String) : Prop :=
  ∃ key, (key, type) ∈ layer ∧ normalKey key = ext

def ownTypes : List (String × String) := ("wasm", "application/wasm") :: common

/-- The type that an extension in lower case has under some layers. A later layer hides an earlier one. -/
inductive Has (layers : List (List (String × String))) (ext : String) : String → Prop
  | given {before layer after type} (hne : ext ≠ "") (hlayers : layers = before ++ layer :: after)
      (h : Gives layer ext type) (hlast : ∀ later ∈ after, ∀ type, ¬Gives later ext type) :
      Has layers ext type
  | own {type} (hnot : ext = "" ∨ ∀ layer ∈ layers, ∀ type, ¬Gives layer ext type)
      (h : (ext, type) ∈ ownTypes) : Has layers ext type
  | unknown (hnot : ext = "" ∨ ∀ layer ∈ layers, ∀ type, ¬Gives layer ext type)
      (h : ∀ type, (ext, type) ∉ ownTypes) : Has layers ext "application/octet-stream"

variable {t : MediaTypes} {layer : List (String × String)} {layers : List (List (String × String))}
  {ext type : String}

theorem isNormal_normalKey {key : String} (h : normalKey key ≠ "") : IsNormal (normalKey key) := by
  refine ⟨?_, h, ?_⟩
  · rw [Text.asciiLower, normalKey, String.toList_ofList, Text.map_toLower_toLower]
  · rw [normalKey, String.toList_ofList, List.head?_map]
    intro hdot
    obtain ⟨c, hc, hlower⟩ := Option.map_eq_some_iff.1 hdot
    have hnot := List.head?_dropWhile_not (· == '.') key.toList
    rw [hc, Text.toLower_eq_dot_iff.1 hlower] at hnot
    simp at hnot

theorem Normal.add (h : t.Normal) (key type : String) : (t.add key type).Normal := by
  rw [MediaTypes.add]
  split
  · exact h
  · next hkey =>
      intro e he
      rcases List.mem_cons.1 he with rfl | he
      · exact isNormal_normalKey hkey
      · exact h e he

theorem overlay_cons (t : MediaTypes) (e : String × String) (layer : List (String × String)) :
    t.overlay (e :: layer) = (t.add e.1 e.2).overlay layer := rfl

theorem Normal.overlay (h : t.Normal) (layer : List (String × String)) : (t.overlay layer).Normal := by
  induction layer generalizing t with
  | nil => exact h
  | cons e layer ih => exact ih (h.add e.1 e.2)

theorem Normal.foldl_overlay (h : t.Normal) (layers : List (List (String × String))) :
    (layers.foldl MediaTypes.overlay t).Normal := by
  induction layers generalizing t with
  | nil => exact h
  | cons layer layers ih => exact ih (h.overlay layer)

theorem Normal.of_lookup (h : t.Normal) (hfound : t.entries.lookup ext = some type) :
    IsNormal ext := by
  obtain ⟨before, after, hentries, -⟩ := List.lookup_eq_some_iff.1 hfound
  exact h (ext, type) (by simp [hentries])

theorem Normal.find?_eq (h : t.Normal) (ext : String) :
    t.find? ext = t.entries.lookup (Text.asciiLower ext) := by
  rw [find?]
  cases hfound : t.entries.lookup ext with
  | none => exact Option.none_or
  | some type => rw [Option.some_or, (h.of_lookup hfound).lower, hfound]

theorem Normal.get_eq (h : t.Normal) (ext : String) :
    t.get (some ext) = (t.entries.lookup (Text.asciiLower ext)).getD unknown := by
  rw [get, Option.bind_some, h.find?_eq]

theorem Normal.get_of_not_isNormal (h : t.Normal) (hext : ¬IsNormal (Text.asciiLower ext)) :
    t.get (some ext) = unknown := by
  rw [h.get_eq]
  cases hfound : t.entries.lookup (Text.asciiLower ext) with
  | none => rfl
  | some type => exact absurd (h.of_lookup hfound) hext

theorem not_isNormal_of_dot (h : ext = "" ∨ ext.toList.head? = some '.') :
    ¬IsNormal (Text.asciiLower ext) := by
  intro hnormal
  rcases h with rfl | hdot
  · exact hnormal.filled rfl
  · apply hnormal.dotless
    rw [Text.asciiLower, String.toList_ofList, List.head?_map, hdot]
    rfl

theorem lookup_add (t : MediaTypes) (key type ext : String) :
    (t.add key type).entries.lookup ext =
      if normalKey key = ext ∧ ext ≠ "" then some type else t.entries.lookup ext := by
  rw [add]
  by_cases hkey : normalKey key = ""
  · rw [if_pos hkey, if_neg]
    rintro ⟨rfl, hne⟩
    exact hne hkey
  · rw [if_neg hkey, insert, List.lookup_cons]
    by_cases hext : normalKey key = ext
    · subst hext
      rw [if_pos ⟨rfl, hkey⟩, beq_self_eq_true]
    · have hbeq : (ext == normalKey key) = false := by simpa using Ne.symm hext
      rw [if_neg (fun h => hext h.1), hbeq]

theorem lookup_overlay_of_not_gives (h : ext = "" ∨ ∀ type, ¬Gives layer ext type) :
    (t.overlay layer).entries.lookup ext = t.entries.lookup ext := by
  induction layer generalizing t with
  | nil => rfl
  | cons e layer ih =>
      have hrest : ext = "" ∨ ∀ type, ¬Gives layer ext type := by
        refine h.imp_right fun hnot type => ?_
        rintro ⟨key, hmem, hkey⟩
        exact hnot type ⟨key, List.mem_cons_of_mem _ hmem, hkey⟩
      have hfirst : ¬(normalKey e.1 = ext ∧ ext ≠ "") := by
        rintro ⟨hkey, hne⟩
        rcases h with hempty | hnot
        · exact hne hempty
        · exact hnot e.2 ⟨e.1, List.mem_cons_self, hkey⟩
      rw [overlay_cons, ih hrest, lookup_add, if_neg hfirst]

theorem lookup_overlay_of_gives (hd : (layer.map fun e => normalKey e.1).Nodup) (hne : ext ≠ "")
    (h : Gives layer ext type) : (t.overlay layer).entries.lookup ext = some type := by
  induction layer generalizing t with
  | nil =>
      obtain ⟨key, hmem, -⟩ := h
      cases hmem
  | cons e layer ih =>
      rw [List.map_cons, List.nodup_cons] at hd
      obtain ⟨key, hmem, hkey⟩ := h
      rcases List.mem_cons.1 hmem with rfl | hmem
      · -- No later key of the layer has the same normal form.
        have hnot : ∀ type, ¬Gives layer ext type := by
          rintro type ⟨other, hother, hsame⟩
          apply hd.1
          rw [hkey, ← hsame]
          exact List.mem_map.2 ⟨_, hother, rfl⟩
        rw [overlay_cons, lookup_overlay_of_not_gives (Or.inr hnot), lookup_add, if_pos ⟨hkey, hne⟩]
      · rw [overlay_cons, ih hd.2 ⟨key, hmem, hkey⟩]

theorem lookup_foldl_of_not_gives (h : ext = "" ∨ ∀ layer ∈ layers, ∀ type, ¬Gives layer ext type) :
    (layers.foldl overlay t).entries.lookup ext = t.entries.lookup ext := by
  induction layers generalizing t with
  | nil => rfl
  | cons layer layers ih =>
      have hfirst : ext = "" ∨ ∀ type, ¬Gives layer ext type :=
        h.imp_right fun hnot => hnot layer List.mem_cons_self
      have hrest : ext = "" ∨ ∀ layer ∈ layers, ∀ type, ¬Gives layer ext type :=
        h.imp_right fun hnot other hmem => hnot other (List.mem_cons_of_mem _ hmem)
      rw [List.foldl_cons, ih hrest, lookup_overlay_of_not_gives hfirst]

theorem builtIn_entries : builtIn.entries = ownTypes := rfl

theorem normal_builtIn : builtIn.Normal := by
  have hall : ∀ e ∈ ownTypes, Text.asciiLower e.1 = e.1 ∧ e.1 ≠ "" ∧ e.1.toList.head? ≠ some '.' := by
    decide +kernel
  intro e he
  rw [builtIn_entries] at he
  obtain ⟨hlower, hfilled, hdotless⟩ := hall e he
  exact ⟨hlower, hfilled, hdotless⟩

theorem lookup_eq_some_iff_mem {entries : List (String × String)}
    (hd : (entries.map Prod.fst).Nodup) : entries.lookup ext = some type ↔ (ext, type) ∈ entries := by
  induction entries with
  | nil => simp
  | cons e entries ih =>
      rw [List.map_cons, List.nodup_cons] at hd
      obtain ⟨key, other⟩ := e
      rw [List.lookup_cons, List.mem_cons, ← ih hd.2, Prod.mk.injEq]
      by_cases hkey : ext = key
      · have hnone : entries.lookup ext ≠ some type := by
          rw [Ne, ih hd.2]
          intro hmem
          exact hd.1 (List.mem_map.2 ⟨_, hmem, hkey⟩)
        simp [hkey, eq_comm, hkey ▸ hnone]
      · have hbeq : (ext == key) = false := by simpa using hkey
        simp [hbeq, hkey]

theorem lookup_builtIn : builtIn.entries.lookup ext = some type ↔ (ext, type) ∈ ownTypes := by
  rw [builtIn_entries]
  exact lookup_eq_some_iff_mem (by decide +kernel)

theorem not_gives_of_forall_ne (h : ∀ layer ∈ layers, ∀ e ∈ layer, normalKey e.1 ≠ ext) :
    ∀ layer ∈ layers, ∀ type, ¬Gives layer ext type := by
  rintro layer hlayer type ⟨key, hmem, hkey⟩
  exact h layer hlayer (key, type) hmem hkey

theorem exists_last_gives (h : ∃ layer ∈ layers, ∃ type, Gives layer ext type) :
    ∃ before layer after type, layers = before ++ layer :: after ∧ Gives layer ext type ∧
      ∀ later ∈ after, ∀ type, ¬Gives later ext type := by
  induction layers with
  | nil =>
      obtain ⟨layer, hmem, -⟩ := h
      cases hmem
  | cons first layers ih =>
      by_cases hrest : ∃ layer ∈ layers, ∃ type, Gives layer ext type
      · obtain ⟨before, layer, after, type, rfl, hgives, hlast⟩ := ih hrest
        exact ⟨first :: before, layer, after, type, rfl, hgives, hlast⟩
      · obtain ⟨layer, hmem, type, hgives⟩ := h
        have hnot : ∀ later ∈ layers, ∀ type, ¬Gives later ext type :=
          fun later hlater type hg => hrest ⟨later, hlater, type, hg⟩
        rcases List.mem_cons.1 hmem with rfl | hmem
        · exact ⟨[], layer, layers, type, rfl, hgives, hnot⟩
        · exact absurd hgives (hnot layer hmem type)

theorem exists_has (layers : List (List (String × String))) (ext : String) :
    ∃ type, Has layers ext type := by
  by_cases hgiven : ext ≠ "" ∧ ∃ layer ∈ layers, ∃ type, Gives layer ext type
  · obtain ⟨before, layer, after, type, hlayers, hgives, hlast⟩ := exists_last_gives hgiven.2
    exact ⟨type, .given hgiven.1 hlayers hgives hlast⟩
  · have hnot : ext = "" ∨ ∀ layer ∈ layers, ∀ type, ¬Gives layer ext type := by
      by_cases hempty : ext = ""
      · exact Or.inl hempty
      · exact Or.inr fun layer hmem type hgives => hgiven ⟨hempty, layer, hmem, type, hgives⟩
    by_cases hown : ∃ type, (ext, type) ∈ ownTypes
    · obtain ⟨type, hmem⟩ := hown
      exact ⟨type, .own hnot hmem⟩
    · exact ⟨_, .unknown hnot fun type hmem => hown ⟨type, hmem⟩⟩

theorem lookup_foldl_of_gives (hd : ∀ layer ∈ layers, (layer.map fun e => normalKey e.1).Nodup)
    (hne : ext ≠ "") {before after : List (List (String × String))}
    (hlayers : layers = before ++ layer :: after) (h : Gives layer ext type)
    (hlast : ∀ later ∈ after, ∀ type, ¬Gives later ext type) :
    (layers.foldl overlay t).entries.lookup ext = some type := by
  subst hlayers
  rw [List.foldl_append, List.foldl_cons, lookup_foldl_of_not_gives (Or.inr hlast),
    lookup_overlay_of_gives (hd layer (by simp)) hne h]

/-- The server's own types with further layers over them, the first one lowest. -/
def layered (layers : List (List (String × String))) : MediaTypes := layers.foldl overlay builtIn

theorem normal_layered (layers : List (List (String × String))) : (layered layers).Normal :=
  normal_builtIn.foldl_overlay layers

theorem get_of_has (hd : ∀ layer ∈ layers, (layer.map fun e => normalKey e.1).Nodup)
    (h : Has layers (Text.asciiLower ext) type) : (layered layers).get (some ext) = type := by
  rw [(normal_layered layers).get_eq, layered]
  cases h with
  | given hne hlayers h hlast => rw [lookup_foldl_of_gives hd hne hlayers h hlast, Option.getD_some]
  | own hnot h => rw [lookup_foldl_of_not_gives hnot, lookup_builtIn.2 h, Option.getD_some]
  | unknown hnot h =>
      have hnone : builtIn.entries.lookup (Text.asciiLower ext) = none := by
        rw [Option.eq_none_iff_forall_ne_some]
        exact fun type hfound => h type (lookup_builtIn.1 hfound)
      rw [lookup_foldl_of_not_gives hnot, hnone]
      rfl

/-- An extension has the type that the last layer with a key for it gives, else the server's own, in
whatever case its letters are. Of each layer, no two keys may have the same normal form. -/
theorem layered_types_of_extension
    (hd : ∀ layer ∈ layers, (layer.map fun e => normalKey e.1).Nodup) (ext : String) :
    (∀ type, (layered layers).get (some ext) = type ↔ Has layers (Text.asciiLower ext) type) ∧
    (layered layers).find? ext = (layered layers).entries.lookup (Text.asciiLower ext) ∧
    (∀ other, Text.asciiLower other = Text.asciiLower ext →
      (layered layers).get (some other) = (layered layers).get (some ext)) ∧
    (ext = "" ∨ ext.toList.head? = some '.' →
      (layered layers).get (some ext) = "application/octet-stream") := by
  have hnormal := normal_layered layers
  obtain ⟨found, hfound⟩ := exists_has layers (Text.asciiLower ext)
  refine ⟨fun type => ⟨?_, get_of_has hd⟩, hnormal.find?_eq ext, fun other hother => ?_, fun hdot => ?_⟩
  · rw [get_of_has hd hfound]
    rintro rfl
    exact hfound
  · rw [hnormal.get_eq, hnormal.get_eq, hother]
  · exact hnormal.get_of_not_isNormal (not_isNormal_of_dot hdot)

def dataLayers : List (List (String × String)) :=
  [[(".Data", "application/x-data"), ("JS", "text/x-js"), (".", "ignored/empty")],
    [("..DATA", "text/x-data")], [("txt", "text/x-plain")]]

theorem layered_types_of_extension_dataLayers :
    (∀ layer ∈ dataLayers, (layer.map fun e => normalKey e.1).Nodup) ∧
      (layered dataLayers).get (some "dAtA") = "text/x-data" ∧
      (layered dataLayers).get (some "Css") = "text/css; charset=utf-8" ∧
      (layered dataLayers).get (some "WASM") = "application/wasm" ∧
      (layered dataLayers).get (some ".txt") = "application/octet-stream" := by
  have hd : ∀ layer ∈ dataLayers, (layer.map fun e => normalKey e.1).Nodup := by decide +kernel
  have hdata : Has dataLayers "data" "text/x-data" :=
    @Has.given _ _ (dataLayers.take 1) _ _ _ (by decide) rfl
      ⟨"..DATA", List.mem_singleton_self _, by decide⟩ (not_gives_of_forall_ne (by decide +kernel))
  have hcss : Has dataLayers "css" "text/css; charset=utf-8" :=
    .own (Or.inr (not_gives_of_forall_ne (by decide +kernel))) (by decide +kernel)
  have hwasm : Has dataLayers "wasm" "application/wasm" :=
    .own (Or.inr (not_gives_of_forall_ne (by decide +kernel))) (by decide +kernel)
  have hget : ∀ {ext lower type : String}, Text.asciiLower ext = lower → Has dataLayers lower type →
      (layered dataLayers).get (some ext) = type := by
    rintro ext lower type rfl hhas
    exact ((layered_types_of_extension hd ext).1 type).2 hhas
  refine ⟨hd, hget (by decide) hdata, hget (by decide) hcss, hget (by decide) hwasm, ?_⟩
  exact (layered_types_of_extension hd ".txt").2.2.2 (Or.inr rfl)

end MediaTypes

end IsolatedSite
