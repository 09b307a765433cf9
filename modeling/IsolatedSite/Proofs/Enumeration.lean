import Mathlib.Data.List.Nodup
import Mathlib.Data.List.Perm.Basic
import IsolatedSite.Proofs.Outline
import IsolatedSite.Proofs.General
import IsolatedSite.Proofs.Utf8

namespace IsolatedSite

inductive Content.Reorders : Content → Content → Prop
  | same (content : Content) : Reorders content content
  | entries {before after : List DirEntry} (hperm : before.Perm after) :
      Reorders (.directory before) (.directory after)

namespace FileTree

variable {t u : FileTree}

theorem find?_of_perm {before after : List DirEntry} (hperm : before.Perm after)
    (hd : (before.map (·.name.octets)).Nodup) (name : Bytes) :
    find? after name = find? before name := by
  have hd' : (after.map (·.name.octets)).Nodup := (hperm.map _).nodup_iff.1 hd
  cases h : find? before name with
  | some e =>
      have hmem : e ∈ before := List.mem_of_find?_eq_some h
      have hname : e.name.octets = name := by simpa using List.find?_some h
      rw [← hname]
      exact find?_of_nodup (fun e : DirEntry => e.name.octets) hd' (hperm.mem_iff.1 hmem)
  | none =>
      rw [find?, List.find?_eq_none] at h ⊢
      intro e he
      exact h e (hperm.mem_iff.2 he)

/-- The same tree with the entries of its directories in any order. -/
structure Reorders (t u : FileTree) : Prop where
  workingDirectory : u.workingDirectory = t.workingDirectory
  nodes : List.Forall₂ (fun n m : Node => n.content.Reorders m.content ∧ m.access = n.access ∧
    m.modified = n.modified) t.nodes u.nodes

theorem Reorders.node? (h : t.Reorders u) (id : NodeId) :
    u.node? id = t.node? id ∨ ∃ before after access modified,
      t.node? id = some ⟨.directory before, access, modified⟩ ∧
      u.node? id = some ⟨.directory after, access, modified⟩ ∧
      before.Perm after := by
  have hnodes := h.nodes
  unfold FileTree.node?
  generalize t.nodes = ns at hnodes
  generalize u.nodes = ms at hnodes
  induction hnodes generalizing id with
  | nil => exact Or.inl rfl
  | @cons n m ns ms hfirst _ ih =>
      cases id with
      | succ id => exact ih id
      | zero =>
          obtain ⟨content, access, modified⟩ := n
          obtain ⟨content', access', modified'⟩ := m
          obtain ⟨hcontent, haccess, hmodified⟩ := hfirst
          cases haccess
          cases hmodified
          cases hcontent with
          | same => exact Or.inl rfl
          | entries hperm => exact Or.inr ⟨_, _, _, _, rfl, rfl, hperm⟩

variable (h : t.Reorders u)

include h

theorem Reorders.targetOf?_eq (id : NodeId) : u.targetOf? id = t.targetOf? id := by
  rcases h.node? id with heq | ⟨before, after, access, modified, ht, hu, -⟩
  · rw [targetOf?, targetOf?, heq]
  · rw [targetOf?, targetOf?, ht, hu]

theorem Reorders.lookup_eq (s : Spot) (name : Bytes) : u.lookup s name = t.lookup s name := by
  rcases h.node? s.node with heq | ⟨before, after, access, modified, ht, hu, hperm⟩
  · simp only [lookup, entriesAt, heq]
  · obtain ⟨hdistinct, -⟩ := isSound_of_node? ht
    simp only [lookup, entriesAt, ht, hu, find?_of_perm hperm hdistinct]

theorem Reorders.checkSlashed_eq (length : Nat) (found : Except Fault (Option DirEntry)) :
    u.checkSlashed length found = t.checkSlashed length found := by
  rcases found with e | _ | entry
  · rfl
  · rfl
  · rcases h.node? entry.node with heq | ⟨before, after, access, modified, ht, hu, -⟩
    · simp only [checkSlashed, heq]
    · simp only [checkSlashed, ht, hu]

theorem Reorders.sameWays (g : Gait) : SameWays g t u where
  lookupAlong s name hops := by simp only [lookupAlong, h.lookup_eq, h.checkSlashed_eq]
  targetOf? := h.targetOf?_eq
  passSlash s := by
    rcases h.node? s.node with heq | ⟨before, after, access, modified, ht, hu, -⟩
    · simp only [passSlash, entriesAt, heq]
    · simp only [passSlash, entriesAt, ht, hu]
  passDots s := by
    rcases h.node? s.node with heq | ⟨before, after, access, modified, ht, hu, -⟩
    · simp only [passDots, entriesAt, heq]
    · simp only [passDots, entriesAt, ht, hu]

theorem Reorders.any_isDirectory (id : NodeId) :
    (u.node? id).any (·.content.isDirectory) = (t.node? id).any (·.content.isDirectory) := by
  rcases h.node? id with heq | ⟨before, after, access, modified, ht, hu, -⟩
  · rw [heq]
  · rw [ht, hu]
    rfl

theorem Reorders.isDirectoryAt_eq (p : Bytes) : u.isDirectoryAt p = t.isDirectoryAt p := by
  have hreach : u.reach p = t.reach p := by
    simp only [reach, land, (h.sameWays _).landWith h.workingDirectory]
  simp only [isDirectoryAt, stat, hreach]
  cases t.reach p with
  | error e => rfl
  | ok s =>
      rcases h.node? s.node with heq | ⟨before, after, access, modified, ht, hu, -⟩
      · simp only [heq]
      · simp only [ht, hu]
        rfl

theorem Reorders.list_eq {dir : Spot} {entries : List DirEntry} (hlist : t.list dir = .ok entries) :
    ∃ after, u.list dir = .ok after ∧ entries.Perm after := by
  rcases h.node? dir.node with heq | ⟨before, after, access, modified, ht, hu, hperm⟩
  · refine ⟨entries, ?_, .refl _⟩
    rw [← hlist]
    simp only [list, entriesAt, heq]
  · simp only [list, entriesAt, ht] at hlist
    split at hlist
    · next hread =>
        cases hlist
        refine ⟨after, ?_, hperm⟩
        simp only [list, entriesAt, hu, hread, if_true]
    · cases hlist

end FileTree

namespace Listing

theorem sorted_perm (items : List ListingEntry) : (sorted items).Perm items :=
  List.mergeSort_perm items _

theorem pairwise_sorted (items : List ListingEntry) :
    (sorted items).Pairwise fun a b => a.key ≤ b.key := by
  have htrans : ∀ a b c : ListingEntry, decide (a.key ≤ b.key) = true →
      decide (b.key ≤ c.key) = true → decide (a.key ≤ c.key) = true := by
    intro a b c hab hbc
    rw [decide_eq_true_iff] at hab hbc ⊢
    exact List.le_trans hab hbc
  have htotal : ∀ a b : ListingEntry,
      (decide (a.key ≤ b.key) || decide (b.key ≤ a.key)) = true := by
    intro a b
    rw [Bool.or_eq_true, decide_eq_true_iff, decide_eq_true_iff]
    exact List.le_total a.key b.key
  apply (List.pairwise_mergeSort htrans htotal items).imp
  intro a b hab
  exact of_decide_eq_true hab

variable {items items' : List ListingEntry}

theorem eq_sorted (hd : (items.map ListingEntry.key).Nodup) (hperm : items'.Perm items)
    (hkeys : items'.Pairwise fun a b => a.key ≤ b.key) : items' = sorted items := by
  have hsame : items'.Perm (sorted items) := hperm.trans (sorted_perm items).symm
  refine List.Perm.eq_of_pairwise ?_ hkeys (pairwise_sorted items) hsame
  intro a b ha hb hab hba
  -- Entries with the same key are the same entry.
  have ha' : a ∈ items := hperm.mem_iff.1 ha
  have hb' : b ∈ items := (sorted_perm items).mem_iff.1 hb
  exact List.inj_on_of_nodup_map hd ha' hb' (List.le_antisymm hab hba)

theorem sorted_eq_of_perm (hd : (items.map ListingEntry.key).Nodup) (hperm : items.Perm items') :
    sorted items' = sorted items :=
  eq_sorted hd ((sorted_perm items').trans hperm.symm) (pairwise_sorted items')

theorem pairwise_lt_sorted (hd : (items.map ListingEntry.key).Nodup) :
    (sorted items).Pairwise fun a b => a.key < b.key := by
  have hd' : ((sorted items).map ListingEntry.key).Nodup :=
    ((sorted_perm items).map _).nodup_iff.2 hd
  rw [List.Nodup, List.pairwise_map] at hd'
  apply ((pairwise_sorted items).and hd').imp
  intro a b hab
  exact Std.lt_of_le_of_ne hab.1 hab.2

/-- What a listing says of an entry. A link counts as a directory if the way along it leads to one. -/
structure Shows (t : FileTree) (dir : Spot) (e : DirEntry) (item : ListingEntry) : Prop where
  name : item.name = Utf8.lossyText e.name.octets
  isLink : item.isLink = true ↔ ∃ n, t.node? e.node = some n ∧ n.content.isLink = true
  isDirectory : item.isDirectory = true ↔ ∃ n, t.node? e.node = some n ∧
    (n.content.isDirectory = true ∨ n.content.isLink = true ∧
      ∃ m, t.stat (Path.push dir.path e.name.octets) = .ok m ∧ m.content.isDirectory = true)

theorem isDirectoryAt_iff {t : FileTree} {p : Bytes} :
    t.isDirectoryAt p = true ↔ ∃ m, t.stat p = .ok m ∧ m.content.isDirectory = true := by
  rw [FileTree.isDirectoryAt]
  cases t.stat p <;> simp

theorem shows_ofDirEntry (t : FileTree) (dir : Spot) (e : DirEntry) :
    Shows t dir e (ListingEntry.ofDirEntry t dir e) := by
  have hlink : (t.targetOf? e.node).isSome = true ↔
      ∃ n, t.node? e.node = some n ∧ n.content.isLink = true := by
    rw [FileTree.targetOf?]
    cases t.node? e.node with
    | none => simp
    | some n =>
        obtain ⟨content, access, modified⟩ := n
        cases content <;> simp [Content.isLink]
  refine ⟨rfl, hlink, ?_⟩
  cases hn : t.node? e.node with
  | none => simp [ListingEntry.ofDirEntry, FileTree.targetOf?, hn]
  | some n =>
      obtain ⟨content, access, modified⟩ := n
      cases content <;>
        simp [ListingEntry.ofDirEntry, FileTree.targetOf?, hn, isDirectoryAt_iff, Content.isLink,
          Content.isDirectory]

theorem ofDirEntry_of_reorders {t u : FileTree} (h : t.Reorders u) (dir : Spot) :
    ListingEntry.ofDirEntry u dir = ListingEntry.ofDirEntry t dir := by
  funext e
  simp only [ListingEntry.ofDirEntry, h.targetOf?_eq, h.isDirectoryAt_eq, h.any_isDirectory]

theorem nodup_key {t : FileTree} {dir : Spot} {entries : List DirEntry}
    (hd : (entries.map fun e => Text.lowercase (Utf8.lossyText e.name.octets)).Nodup) :
    ((entries.map (ListingEntry.ofDirEntry t dir)).map ListingEntry.key).Nodup := by
  have hkey : (entries.map (ListingEntry.ofDirEntry t dir)).map ListingEntry.key =
      (entries.map fun e => Text.lowercase (Utf8.lossyText e.name.octets)).map Utf8.octets := by
    rw [List.map_map, List.map_map]
    rfl
  rw [hkey]
  exact hd.map fun _ _ => Utf8.octets_injective

theorem read_of_list {t : FileTree} {dir : Spot} {entries : List DirEntry}
    (h : t.list dir = .ok entries) :
    read t dir = .ok (sorted (entries.map (ListingEntry.ofDirEntry t dir))) := by
  rw [read, h]
  rfl

theorem exists_shows_order {t : FileTree} {dir : Spot} {entries : List DirEntry}
    (hperm : items.Perm (entries.map (ListingEntry.ofDirEntry t dir))) :
    ∃ order, order.Perm entries ∧ List.Forall₂ (Shows t dir) order items := by
  have heach : List.Forall₂ (fun item e => Shows t dir e item)
      (entries.map (ListingEntry.ofDirEntry t dir)) entries := by
    rw [List.forall₂_map_left_iff, List.forall₂_same]
    exact fun e _ => shows_ofDirEntry t dir e
  obtain ⟨order, hshows, horder⟩ := List.perm_comp_forall₂ hperm heach
  exact ⟨order, horder, hshows.flip⟩

/-- A directory that may be read is listed with one item for each entry, in the order of the lower-cased
names, whatever the order of the entries. -/
theorem listing_orders_entries {t : FileTree} {dir : Spot} {entries : List DirEntry}
    (hlist : t.list dir = .ok entries)
    (hd : (entries.map fun e => Text.lowercase (Utf8.lossyText e.name.octets)).Nodup) :
    ∃ items, read t dir = .ok items ∧
      (∃ order, order.Perm entries ∧ List.Forall₂ (Shows t dir) order items) ∧
      (items.Pairwise fun a b =>
        Utf8.octets (Text.lowercase a.name) < Utf8.octets (Text.lowercase b.name)) ∧
      ∀ u, t.Reorders u → read u dir = .ok items := by
  refine ⟨_, read_of_list hlist, exists_shows_order (sorted_perm _),
    pairwise_lt_sorted (nodup_key hd), ?_⟩
  intro u hu
  obtain ⟨after, hafter, hperm⟩ := hu.list_eq hlist
  rw [read_of_list hafter, ofDirEntry_of_reorders hu, sorted_eq_of_perm (nodup_key hd) (hperm.map _)]

/-- Files, a directory, a link to it, a link to nothing and a link to itself. -/
def shelfEntries : List DirEntry :=
  [⟨⟨Utf8.octets "b.txt", Eq.refl true⟩, 1⟩, ⟨⟨Utf8.octets "ring", Eq.refl true⟩, 6⟩,
    ⟨⟨Utf8.octets "A.txt", Eq.refl true⟩, 2⟩, ⟨⟨Utf8.octets "Down", Eq.refl true⟩, 4⟩,
    ⟨⟨Utf8.octets "c", Eq.refl true⟩, 3⟩, ⟨⟨Utf8.octets "gone", Eq.refl true⟩, 5⟩]

def shelf (entries : List DirEntry) (h : (Content.directory entries).IsSound 7) : FileTree where
  nodes :=
    [⟨.directory entries, .forDirectories, ⟨3, 0⟩⟩, ⟨.file [], .forFiles, ⟨3, 0⟩⟩,
      ⟨.file [], .forFiles, ⟨3, 0⟩⟩, ⟨.directory [], .forDirectories, ⟨3, 0⟩⟩,
      ⟨.link (Utf8.octets "c"), .forDirectories, ⟨3, 0⟩⟩,
      ⟨.link (Utf8.octets "nowhere"), .forDirectories, ⟨3, 0⟩⟩,
      ⟨.link (Utf8.octets "ring"), .forDirectories, ⟨3, 0⟩⟩]
  workingDirectory := .root
  sound := List.forall_mem_cons.2 ⟨h, of_decide_eq_true (Eq.refl true)⟩

theorem shelf_reorders {before after : List DirEntry} (hperm : before.Perm after)
    (hbefore : (Content.directory before).IsSound 7) (hafter : (Content.directory after).IsSound 7) :
    (shelf before hbefore).Reorders (shelf after hafter) where
  workingDirectory := rfl
  nodes := .cons ⟨.entries hperm, rfl, rfl⟩
    (List.forall₂_same.2 fun n _ => ⟨.same n.content, rfl, rfl⟩)

def shelfItems : List ListingEntry :=
  [⟨"A.txt", false, false⟩, ⟨"b.txt", false, false⟩, ⟨"c", true, false⟩, ⟨"Down", true, true⟩,
    ⟨"gone", false, true⟩, ⟨"ring", false, true⟩]

theorem shelfEntries_isSound : (Content.directory shelfEntries).IsSound 7 := by
  decide +kernel

theorem shelfEntries_reverse_isSound : (Content.directory shelfEntries.reverse).IsSound 7 := by
  decide +kernel

theorem listing_orders_entries_shelf :
    (shelf shelfEntries shelfEntries_isSound).list .root = .ok shelfEntries ∧
      (shelfEntries.map fun e => Text.lowercase (Utf8.lossyText e.name.octets)).Nodup ∧
      read (shelf shelfEntries shelfEntries_isSound) .root = .ok shelfItems ∧
      read (shelf shelfEntries.reverse shelfEntries_reverse_isSound) .root = .ok shelfItems := by
  have hlist : (shelf shelfEntries shelfEntries_isSound).list .root = .ok shelfEntries := rfl
  have hd : (shelfEntries.map fun e => Text.lowercase (Utf8.lossyText e.name.octets)).Nodup := by
    decide +kernel
  obtain ⟨items, hread, -, -, hother⟩ := listing_orders_entries hlist hd
  have hitems : shelfItems =
      sorted (shelfEntries.map (ListingEntry.ofDirEntry (shelf shelfEntries shelfEntries_isSound) .root)) :=
    eq_sorted (nodup_key hd) (by decide +kernel) (by decide +kernel)
  have hshelf : read (shelf shelfEntries shelfEntries_isSound) .root = .ok shelfItems := by
    rw [read_of_list hlist, hitems]
  rw [hshelf] at hread
  cases hread
  exact ⟨hlist, hd, hshelf, hother _ (shelf_reorders (List.reverse_perm _).symm _ _)⟩

end Listing

end IsolatedSite
