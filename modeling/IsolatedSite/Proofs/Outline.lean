import IsolatedSite.Listing
import IsolatedSite.Site.Locate
import IsolatedSite.Proofs.Walk

namespace IsolatedSite

def Content.outline : Content → Content
  | .file _ => .file []
  | content => content

def Node.outline (n : Node) : Node := ⟨n.content.outline, n.access, ⟨0, 0⟩⟩

@[simp] theorem Content.isDirectory_outline (c : Content) :
    c.outline.isDirectory = c.isDirectory := by
  cases c <;> rfl

theorem Content.IsSound.outline {size : Nat} {c : Content} (h : c.IsSound size) :
    c.outline.IsSound size := by
  cases c with
  | directory entries => exact h
  | file | link | socket | device => trivial

namespace FileTree

def outline (t : FileTree) : FileTree where
  nodes := t.nodes.map Node.outline
  workingDirectory := t.workingDirectory
  sound n hn := by
    rw [List.length_map]
    obtain ⟨m, hm, rfl⟩ := List.mem_map.1 hn
    exact (t.sound m hm).outline

variable (t : FileTree) (g : Gait)

theorem node?_outline (id : NodeId) : t.outline.node? id = (t.node? id).map Node.outline :=
  List.getElem?_map

@[simp] theorem entriesAt_outline (s : Spot) : t.outline.entriesAt s = t.entriesAt s := by
  unfold entriesAt
  rw [node?_outline]
  cases h : t.node? s.node with
  | none => rfl
  | some n =>
      obtain ⟨content, access, modified⟩ := n
      cases content <;> rfl

@[simp] theorem targetOf?_outline (id : NodeId) : t.outline.targetOf? id = t.targetOf? id := by
  unfold targetOf?
  rw [node?_outline]
  cases h : t.node? id with
  | none => rfl
  | some n =>
      obtain ⟨content, access, modified⟩ := n
      cases content <;> rfl

@[simp] theorem lookup_outline (s : Spot) (name : Bytes) :
    t.outline.lookup s name = t.lookup s name := by
  simp [lookup]

@[simp] theorem checkSlashed_outline (length : Nat) (found : Except Fault (Option DirEntry)) :
    t.outline.checkSlashed length found = t.checkSlashed length found := by
  rcases found with e | _ | entry
  · rfl
  · rfl
  · simp only [checkSlashed, node?_outline]
    cases h : t.node? entry.node with
    | none => rfl
    | some n =>
        obtain ⟨content, access, modified⟩ := n
        cases content <;> rfl

@[simp] theorem lookupAlong_outline (s : Spot) (name : Bytes) (hops : List Hop) :
    t.outline.lookupAlong g s name hops = t.lookupAlong g s name hops := by
  simp [lookupAlong]

theorem sameWays_outline : SameWays g t t.outline where
  lookupAlong := lookupAlong_outline t g
  targetOf? := targetOf?_outline t
  passSlash s := by simp only [passSlash, entriesAt_outline]
  passDots s := by simp only [passDots, entriesAt_outline]

theorem landWith_outline (p : Bytes) : t.outline.landWith g p = t.landWith g p :=
  (sameWays_outline t g).landWith rfl p

theorem canonical_outline (p : Bytes) : t.outline.canonical p = t.canonical p := by
  rw [canonical, canonical, landWith_outline]

theorem reach_outline (p : Bytes) : t.outline.reach p = t.reach p := by
  simp only [reach, land, landWith_outline]

theorem isDirectoryAt_outline (p : Bytes) : t.outline.isDirectoryAt p = t.isDirectoryAt p := by
  simp only [isDirectoryAt, stat, reach_outline]
  cases t.reach p with
  | error e => rfl
  | ok s =>
      simp only [node?_outline]
      cases t.node? s.node with
      | none => rfl
      | some n => exact n.content.isDirectory_outline

end FileTree

theorem Listing.read_outline (t : FileTree) (dir : Spot) :
    Listing.read t.outline dir = Listing.read t dir := by
  have hentry : ListingEntry.ofDirEntry t.outline dir = ListingEntry.ofDirEntry t dir := by
    funext e
    simp only [ListingEntry.ofDirEntry, FileTree.targetOf?_outline, FileTree.isDirectoryAt_outline,
      FileTree.node?_outline, Option.any_map]
    simp [Node.outline]
  simp only [Listing.read, FileTree.list, FileTree.entriesAt_outline, hentry]

namespace Site

variable (t : FileTree) (root : Bytes)

theorem confine_outline (candidate : Bytes) :
    confine t.outline root candidate = confine t root candidate := by
  simp only [confine, FileTree.canonical_outline]

theorem contentAt_outline (place : Spot) :
    contentAt t.outline place = (contentAt t place).map Content.outline := by
  unfold contentAt
  rw [FileTree.node?_outline]
  cases t.node? place.node <;> rfl

theorem indexFile?_outline (candidate : Bytes) (names : List Bytes) :
    indexFile? t.outline root candidate names = indexFile? t root candidate names := by
  induction names with
  | nil => rfl
  | cons name names ih =>
      simp only [indexFile?, confine_outline, ih]
      cases confine t root (Path.push candidate name) with
      | error refusal => rfl
      | ok place =>
          simp only [contentAt_outline]
          rcases contentAt t place with refusal | content
          · rfl
          · cases content <;> rfl

theorem foundAt_outline (path : String) (candidate : Bytes) (place : Spot) :
    foundAt t.outline root path candidate place = foundAt t root path candidate place := by
  simp only [foundAt, contentAt_outline, indexFile?_outline]
  rcases contentAt t place with refusal | content
  · rfl
  · cases content <;> rfl

theorem locate_outline (path : String) : locate t.outline root path = locate t root path := by
  simp only [locate, confine_outline, foundAt_outline]

end Site

end IsolatedSite
