import IsolatedSite.Calendar.Moment
import IsolatedSite.Path

namespace IsolatedSite

abbrev NodeId := Nat

structure FileName where
  octets : Bytes
  valid : (Path.isNamed octets && octets != Path.upName && decide (octets.length ≤ 255) &&
    !octets.contains Path.slash && !octets.contains 0) = true
  deriving DecidableEq

namespace FileName

def ofOctets? (octets : Bytes) : Option FileName :=
  if h : (Path.isNamed octets && octets != Path.upName && decide (octets.length ≤ 255) &&
      !octets.contains Path.slash && !octets.contains 0) = true then
    some ⟨octets, h⟩
  else none

end FileName

structure DirEntry where
  name : FileName
  node : NodeId
  deriving DecidableEq

/-- A null device swallows what is written to it, a full device has no room for it. -/
inductive Device where
  | null
  | full
  deriving DecidableEq

inductive Content where
  | file (data : Bytes)
  | directory (entries : List DirEntry)
  | link (target : Bytes)
  | socket
  | device (kind : Device)
  deriving DecidableEq

/-- What the owner of the process may do with a node. To search a directory is to look up a name
in it. -/
structure Access where
  read : Bool
  write : Bool
  search : Bool
  deriving DecidableEq, Repr

namespace Access

def forFiles : Access := ⟨true, true, false⟩

def forDirectories : Access := ⟨true, true, true⟩

end Access

structure Node where
  content : Content
  access : Access
  modified : Moment
  deriving DecidableEq

/-- A place in the tree: the names and nodes passed through from the root, the innermost first. -/
structure Spot where
  trail : List (FileName × NodeId)
  deriving DecidableEq

/-- Content whose entries have distinct names and refer to some of the first nodes. -/
def Content.IsSound (size : Nat) : Content → Prop
  | .directory entries => (entries.map (·.name.octets)).Nodup ∧ ∀ e ∈ entries, e.node < size
  | _ => True

instance (size : Nat) (c : Content) : Decidable (c.IsSound size) :=
  match c with
  | .directory entries =>
    inferInstanceAs (Decidable ((entries.map (·.name.octets)).Nodup ∧ ∀ e ∈ entries, e.node < size))
  | .file _ | .link _ | .socket | .device _ => isTrue trivial

/-- Node 0 is the root. Relative paths start from the working directory. -/
structure FileTree where
  nodes : List Node
  workingDirectory : Spot
  sound : ∀ n ∈ nodes, n.content.IsSound nodes.length
  deriving DecidableEq

namespace Spot

def root : Spot := ⟨[]⟩

def node (s : Spot) : NodeId :=
  match s.trail with
  | [] => 0
  | (_, id) :: _ => id

def into (s : Spot) (name : FileName) (id : NodeId) : Spot := ⟨(name, id) :: s.trail⟩

def up (s : Spot) : Spot := ⟨s.trail.tail⟩

def names (s : Spot) : List Bytes := (s.trail.map (·.1.octets)).reverse

def path (s : Spot) : Bytes := Path.slash :: joinWith [Path.slash] s.names

def isUnder (s top : Spot) : Bool := top.names.isPrefixOf s.names

end Spot

namespace Content

def isDirectory : Content → Bool
  | .directory _ => true
  | _ => false

def isFile : Content → Bool
  | .file _ => true
  | _ => false

def isLink : Content → Bool
  | .link _ => true
  | _ => false

def size : Content → Nat
  | .file data => data.length
  | _ => 0

theorem isSound_empty : (directory []).IsSound 0 :=
  ⟨List.Pairwise.nil, fun _ he => absurd he List.not_mem_nil⟩

theorem IsSound.mono {size size' : Nat} (hle : size ≤ size') {c : Content} (h : c.IsSound size) :
    c.IsSound size' := by
  cases c with
  | directory entries => exact ⟨h.1, fun e he => Nat.lt_of_lt_of_le (h.2 e he) hle⟩
  | file | link | socket | device => trivial

end Content

namespace FileTree

def node? (t : FileTree) (id : NodeId) : Option Node := t.nodes[id]?

theorem isSound_of_node? {t : FileTree} {id : NodeId} {n : Node} (h : t.node? id = some n) :
    n.content.IsSound t.nodes.length :=
  t.sound n (List.mem_of_getElem? h)

def update (t : FileTree) (id : NodeId) (f : Node → Node)
    (hf : ∀ n, n.content.IsSound t.nodes.length → (f n).content.IsSound t.nodes.length) :
    FileTree where
  nodes := t.nodes.modify id f
  workingDirectory := t.workingDirectory
  sound n hn := by
    rw [List.length_modify]
    obtain ⟨k, hk⟩ := List.mem_iff_getElem?.1 hn
    rw [List.getElem?_modify] at hk
    obtain ⟨m, hm, rfl⟩ := Option.map_eq_some_iff.1 hk
    have hsound := t.sound m (List.mem_of_getElem? hm)
    split
    · exact hf m hsound
    · exact hsound

def addNode (t : FileTree) (n : Node) (hn : n.content.IsSound 0) : FileTree × NodeId :=
  let grown : FileTree :=
    { nodes := t.nodes ++ [n]
      workingDirectory := t.workingDirectory
      sound := fun m hm => by
        rw [List.length_append]
        rcases List.mem_append.1 hm with hm | hm
        · exact (t.sound m hm).mono (Nat.le_add_right _ _)
        · rw [List.mem_singleton.1 hm]
          exact hn.mono (Nat.zero_le _) }
  (grown, t.nodes.length)

def find? (entries : List DirEntry) (name : Bytes) : Option DirEntry :=
  entries.find? (·.name.octets == name)

def readAt (t : FileTree) (id : NodeId) (offset count : Nat) : Bytes :=
  match t.node? id with
  | some ⟨.file data, _, _⟩ => (data.drop offset).take count
  | _ => []

end FileTree

end IsolatedSite
