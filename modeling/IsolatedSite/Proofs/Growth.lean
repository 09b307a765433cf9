import IsolatedSite.FileTree.Edit
import IsolatedSite.Proofs.Canonical
import IsolatedSite.Proofs.Stream

namespace IsolatedSite

/-- The content of a node when octets have been added to files and entries to directories. -/
inductive Content.Continues (more : Bytes) : Content → Content → Prop
  | file (data : Bytes) : Continues more (.file data) (.file (data ++ more))
  | directory (entries added : List DirEntry) :
      Continues more (.directory entries) (.directory (entries ++ added))
  | link (target : Bytes) : Continues more (.link target) (.link target)
  | socket : Continues more .socket .socket
  | device (kind : Device) : Continues more (.device kind) (.device kind)

theorem Content.Continues.of_not_file {c : Content} (h : c.isFile = false) (more : Bytes) :
    c.Continues more c := by
  cases c with
  | file data => cases h
  | directory entries =>
      have h : (Content.directory entries).Continues more (.directory (entries ++ [])) :=
        .directory entries []
      rwa [List.append_nil] at h
  | link target => exact .link target
  | socket => exact .socket
  | device kind => exact .device kind

theorem Content.Continues.refl (c : Content) : c.Continues [] c := by
  cases c with
  | file data =>
      have h : (Content.file data).Continues [] (.file (data ++ [])) := .file data
      rwa [List.append_nil] at h
  | directory | link | socket | device => exact .of_not_file rfl []

theorem Content.Continues.trans {more more' : Bytes} {c d e : Content} (h : c.Continues more d)
    (h' : d.Continues more' e) : c.Continues (more ++ more') e := by
  cases h with
  | file data =>
      cases h'
      rw [List.append_assoc]
      exact .file data
  | directory entries added =>
      cases h'
      rw [List.append_assoc]
      exact .directory entries _
  | link target => cases h'; exact .link target
  | socket => cases h'; exact .socket
  | device kind => cases h'; exact .device kind

theorem Content.Continues.isDirectory_eq {more : Bytes} {c d : Content} (h : c.Continues more d) :
    d.isDirectory = c.isDirectory := by
  cases h <;> rfl

theorem Content.Continues.isFile_eq {more : Bytes} {c d : Content} (h : c.Continues more d) :
    d.isFile = c.isFile := by
  cases h <;> rfl

theorem Content.Continues.eq_device_iff {more : Bytes} {c d : Content} (h : c.Continues more d)
    {kind : Device} : d = .device kind ↔ c = .device kind := by
  cases h <;> simp

namespace FileTree

variable {t u v : FileTree} {a b : NodeId → Bytes}

/-- The second tree is the first one grown: `added` tells which octets each file has got more. Nodes
that are new are directories, or files with nothing but those octets. -/
structure Extends (added : NodeId → Bytes) (t u : FileTree) : Prop where
  workingDirectory : u.workingDirectory = t.workingDirectory
  kept : ∀ id n, t.node? id = some n →
    ∃ c, u.node? id = some { n with content := c } ∧ n.content.Continues (added id) c
  made : ∀ id n, t.node? id = none → u.node? id = some n →
    n.content = .file (added id) ∨ n.content.isDirectory = true
  absent : ∀ id, u.node? id = none → added id = []

theorem extends_of_same (hwork : u.workingDirectory = t.workingDirectory)
    (hsame : ∀ id, u.node? id = t.node? id) : t.Extends (fun _ => []) u where
  workingDirectory := hwork
  kept id n hn := ⟨n.content, (hsame id).trans hn, .refl n.content⟩
  made id _ hnone hsome := by
    rw [hsame id, hnone] at hsome
    cases hsome
  absent _ _ := rfl

theorem Extends.refl (t : FileTree) : t.Extends (fun _ => []) t :=
  extends_of_same rfl fun _ => rfl

theorem Extends.congr (h : t.Extends a u) (hab : ∀ id, a id = b id) : t.Extends b u := by
  have heq : a = b := funext hab
  rw [← heq]
  exact h

theorem Extends.node?_eq_none (h : t.Extends a u) {id : NodeId} (hu : u.node? id = none) :
    t.node? id = none := by
  cases ht : t.node? id with
  | none => rfl
  | some n =>
      obtain ⟨c, hc, -⟩ := h.kept id n ht
      rw [hu] at hc
      cases hc

theorem Extends.trans (h : t.Extends a u) (h' : u.Extends b v) :
    t.Extends (fun id => a id ++ b id) v where
  workingDirectory := h'.workingDirectory.trans h.workingDirectory
  kept id n hn := by
    obtain ⟨c, hc, hcont⟩ := h.kept id n hn
    obtain ⟨d, hd, hcont'⟩ := h'.kept id _ hc
    exact ⟨d, hd, hcont.trans hcont'⟩
  made id n hnone hsome := by
    cases hu : u.node? id with
    | none =>
        rw [h.absent id hu]
        exact h'.made id n hu hsome
    | some m =>
        obtain ⟨c, hc, hcont⟩ := h'.kept id m hu
        rw [hsome] at hc
        cases hc
        rcases h.made id m hnone hu with hfile | hdir
        · rw [hfile] at hcont
          cases hcont
          exact Or.inl rfl
        · rw [← hcont.isDirectory_eq] at hdir
          exact Or.inr hdir
  absent id hv := by
    have hu := h'.node?_eq_none hv
    rw [h.absent id hu, h'.absent id hv]
    rfl

def dataAt (t : FileTree) (id : NodeId) : Bytes := ((t.node? id).map (·.content.data)).getD []

theorem lt_of_node? {id : NodeId} {n : Node} (h : t.node? id = some n) : id < t.nodes.length := by
  obtain ⟨hlt, -⟩ := List.getElem?_eq_some_iff.1 h
  exact hlt

theorem octets_ofOctets? {octets : Bytes} {name : FileName}
    (h : FileName.ofOctets? octets = some name) : name.octets = octets := by
  unfold FileName.ofOctets? at h
  split at h
  · cases h
    rfl
  · cases h

section Update

variable {id : NodeId} {f : Node → Node}
  {hf : ∀ n, n.content.IsSound t.nodes.length → (f n).content.IsSound t.nodes.length}

theorem node?_update_self : (t.update id f hf).node? id = (t.node? id).map f :=
  List.getElem?_modify_eq f id t.nodes

theorem node?_update_of_ne {other : NodeId} (h : other ≠ id) :
    (t.update id f hf).node? other = t.node? other :=
  List.getElem?_modify_ne f t.nodes (Ne.symm h)

theorem extends_of_node? {n : Node} {more : Bytes} {c : Content}
    (hwork : u.workingDirectory = t.workingDirectory)
    (hother : ∀ other, other ≠ id → u.node? other = t.node? other) (hn : t.node? id = some n)
    (hu : u.node? id = some { n with content := c }) (hc : n.content.Continues more c) :
    t.Extends (fun k => if k = id then more else []) u where
  workingDirectory := hwork
  kept k m hm := by
    by_cases hk : k = id
    · subst hk
      cases hn.symm.trans hm
      rw [if_pos rfl]
      exact ⟨c, hu, hc⟩
    · rw [if_neg hk]
      exact ⟨m.content, (hother k hk).trans hm, .refl m.content⟩
  made k m hnone hsome := by
    have hk : k ≠ id := by
      rintro rfl
      rw [hn] at hnone
      cases hnone
    rw [hother k hk, hnone] at hsome
    cases hsome
  absent k hnone := by
    refine if_neg ?_
    rintro rfl
    rw [hu] at hnone
    cases hnone

theorem extends_update {n : Node} {more : Bytes} {c : Content} (hn : t.node? id = some n)
    (hfn : f n = { n with content := c }) (hc : n.content.Continues more c) :
    t.Extends (fun k => if k = id then more else []) (t.update id f hf) := by
  refine extends_of_node? rfl (fun _ => node?_update_of_ne) hn ?_ hc
  rw [node?_update_self, hn, ← hfn]
  rfl

theorem extends_update_of_none (hn : t.node? id = none) :
    t.Extends (fun _ => []) (t.update id f hf) := by
  refine extends_of_same rfl fun other => ?_
  by_cases h : other = id
  · rw [h, node?_update_self, hn]
    rfl
  · exact node?_update_of_ne h

end Update

theorem continues_withEntry (c : Content) (size : Nat) (e : DirEntry) :
    c.Continues [] (c.withEntry size e) := by
  cases c with
  | directory entries =>
      rw [Content.withEntry]
      split
      · exact .directory entries [e]
      · exact .refl _
  | file | link | socket | device => exact .refl _

theorem node?_addNode_of_some {id : NodeId} {m : Node} (h : t.node? id = some m) (n : Node)
    (hn : n.content.IsSound 0) : (t.addNode n hn).1.node? id = some m :=
  (List.getElem?_append_left (lt_of_node? h)).trans h

theorem node?_addNode_self (n : Node) (hn : n.content.IsSound 0) :
    (t.addNode n hn).1.node? t.nodes.length = some n :=
  List.getElem?_concat_length

theorem extends_addNode {n : Node} (hs : n.content.IsSound 0)
    (hn : n.content = .file [] ∨ n.content.isDirectory = true) :
    t.Extends (fun _ => []) (t.addNode n hs).1 where
  workingDirectory := rfl
  kept id m hm := ⟨m.content, node?_addNode_of_some hm n hs, .refl m.content⟩
  made id m hnone hsome := by
    have hge : t.nodes.length ≤ id := List.getElem?_eq_none_iff.1 hnone
    have hlast : [n][id - t.nodes.length]? = some m :=
      (List.getElem?_append_right hge).symm.trans hsome
    rw [List.mem_singleton.1 (List.mem_of_getElem? hlast)]
    exact hn
  absent _ _ := rfl

theorem extends_enter (dir : NodeId) (name : FileName) (id : NodeId) :
    t.Extends (fun _ => []) (t.enter dir name id) := by
  cases hn : t.node? dir with
  | none => exact extends_update_of_none hn
  | some n =>
      have hext : t.Extends (fun k => if k = dir then [] else []) (t.enter dir name id) :=
        extends_update hn rfl (continues_withEntry n.content t.nodes.length ⟨name, id⟩)
      exact hext.congr (by simp)

section Create

variable {dir : Spot} {name : Bytes} {n : Node} {hs : n.content.IsSound 0} {id : NodeId}

theorem create_eq_ok (h : t.create dir name n hs = .ok (u, id)) :
    ∃ fileName : FileName, fileName.octets = name ∧ id = t.nodes.length ∧
      u = (t.addNode n hs).1.enter dir.node fileName id := by
  unfold create at h
  split at h
  · cases h
  · split at h
    · cases h
    · next fileName hname =>
        cases h
        exact ⟨fileName, octets_ofOctets? hname, rfl, rfl⟩

theorem extends_create (hn : n.content = .file [] ∨ n.content.isDirectory = true)
    (h : t.create dir name n hs = .ok (u, id)) : t.Extends (fun _ => []) u := by
  obtain ⟨fileName, -, -, rfl⟩ := create_eq_ok h
  exact ((extends_addNode hs hn).trans (extends_enter _ _ _)).congr (by simp)

theorem lookup_of_create (hl : t.lookup dir name = .ok none)
    (h : t.create dir name n hs = .ok (u, id)) :
    ∃ fileName, u.lookup dir name = .ok (some ⟨fileName, id⟩) := by
  obtain ⟨fileName, rfl, rfl, rfl⟩ := create_eq_ok h
  obtain ⟨access, entries, hentries, hsearch, hlen, hfind⟩ := entriesAt_of_lookup hl
  obtain ⟨modified, hn⟩ := entriesAt_eq_ok.1 hentries
  have hfree : fileName.octets ∉ entries.map (·.name.octets) := by
    intro hmem
    obtain ⟨e, he, hname⟩ := List.mem_map.1 hmem
    exact absurd hname (by simpa using List.find?_eq_none.1 hfind.symm e he)
  have hroom : t.nodes.length < (t.addNode n hs).1.nodes.length := by
    simp [addNode]
  have hentered : ((t.addNode n hs).1.enter dir.node fileName t.nodes.length).entriesAt dir =
      .ok (access, entries ++ [⟨fileName, t.nodes.length⟩]) := by
    refine entriesAt_eq_ok.2 ⟨modified, ?_⟩
    rw [enter, node?_update_self, node?_addNode_of_some hn, Option.map_some, Content.withEntry,
      if_pos ⟨hfree, hroom⟩]
  have hnew : find? (entries ++ [⟨fileName, t.nodes.length⟩]) fileName.octets =
      some ⟨fileName, t.nodes.length⟩ := by
    rw [find?] at hfind ⊢
    rw [List.find?_append, ← hfind]
    simp
  refine ⟨fileName, ?_⟩
  rw [lookup_of_entriesAt hentered, if_pos hsearch, hnew]

theorem node?_of_create (h : t.create dir name n hs = .ok (u, id)) :
    ∃ c, u.node? id = some { n with content := c } ∧ n.content.Continues [] c := by
  obtain ⟨fileName, -, rfl, rfl⟩ := create_eq_ok h
  exact (extends_enter _ _ _).kept _ _ (node?_addNode_self n hs)

end Create

theorem extends_makeDirectory {p : Bytes} (h : t.makeDirectory p = .ok u) :
    t.Extends (fun _ => []) u := by
  unfold makeDirectory at h
  split at h
  · cases h
  · cases h
  · next dir name _ =>
      cases hcreate : t.create dir name ⟨.directory [], .forDirectories, unset⟩
          Content.isSound_empty with
      | error e =>
          rw [hcreate] at h
          cases h
      | ok made =>
          rw [hcreate] at h
          cases h
          exact extends_create (Or.inr rfl) hcreate

theorem extends_makeChain (paths : List Bytes) :
    t.Extends (fun _ => []) (t.makeChain paths).1 := by
  induction paths with
  | nil => exact .refl t
  | cons p parents ih =>
      unfold makeChain
      split
      · next u hm => exact extends_makeDirectory hm
      · split
        · split
          · next above e hchain =>
              rw [hchain] at ih
              exact ih
          · next above hchain =>
              rw [hchain] at ih
              split
              · next u hm => exact (ih.trans (extends_makeDirectory hm)).congr (by simp)
              · exact ih
        · exact .refl t

theorem extends_makeParents (p : Bytes) : t.Extends (fun _ => []) (t.makeParents p).1 := by
  unfold makeParents
  split
  · exact .refl t
  · split
    · exact .refl t
    · exact extends_makeChain _

/-- A file that is opened is there and may be written to, or it is made at a name that is free. -/
theorem openOrCreate_eq_ok {p : Bytes} {id : NodeId} (h : t.openOrCreate p = .ok (u, id)) :
    (∃ s n, t.land true p = .ok (.found s) ∧ t.node? s.node = some n ∧ writable n = .ok () ∧
      u = t ∧ id = s.node) ∨
    ∃ dir name, t.land true p = .ok (.vacant dir name) ∧
      t.create dir name ⟨.file [], .forFiles, unset⟩ trivial = .ok (u, id) := by
  unfold openOrCreate at h
  split at h
  · cases h
  · next dir name hland =>
      split at h
      · cases h
      · next hend =>
          rw [if_neg hend] at hland
          exact Or.inr ⟨dir, name, (bind_checkLength_eq_ok.1 hland).2, h⟩
  · next s hland =>
      split at h
      · cases h
      · next n hn =>
          split at h
          · cases h
          · next hend =>
              rw [if_neg hend] at hland
              cases hw : writable n with
              | error e =>
                  rw [hw] at h
                  cases h
              | ok _ =>
                  rw [hw] at h
                  cases h
                  exact Or.inl ⟨s, n, (bind_checkLength_eq_ok.1 hland).2, hn, hw, rfl, rfl⟩

theorem extends_openOrCreate {p : Bytes} {id : NodeId} (h : t.openOrCreate p = .ok (u, id)) :
    t.Extends (fun _ => []) u := by
  rcases openOrCreate_eq_ok h with ⟨s, n, -, -, -, rfl, -⟩ | ⟨dir, name, -, hcreate⟩
  · exact .refl u
  · exact extends_create (Or.inl rfl) hcreate

theorem extends_of_not_file {id : NodeId} {n : Node} (hn : t.node? id = some n)
    (hfile : n.content.isFile = false) (data : Bytes) :
    t.Extends (fun k => if k = id then data else []) t :=
  extends_of_node? rfl (fun _ _ => rfl) hn hn (.of_not_file hfile data)

theorem extends_append {id : NodeId} {n : Node} {data : Bytes} (hn : t.node? id = some n)
    (h : t.append id data = .ok u) : t.Extends (fun k => if k = id then data else []) u := by
  unfold append at h
  split at h
  · next old access modified hfile =>
      cases h
      exact extends_update hfile rfl (.file old)
  · cases h
  · next hnot _ =>
      cases h
      refine extends_of_not_file hn ?_ data
      obtain ⟨content, access, modified⟩ := n
      cases content with
      | file old => exact absurd hn (hnot old access modified)
      | directory | link | socket | device => rfl

theorem append_eq_error {id : NodeId} {data : Bytes} {e : Fault} :
    t.append id data = .error e ↔
      e = .storageFull ∧ ∃ n, t.node? id = some n ∧ n.content = .device .full := by
  unfold append
  split
  · next old access modified hn => simp [hn]
  · next access modified hn => simp [hn, eq_comm]
  · next hfile hfull =>
      refine iff_of_false (by simp) ?_
      rintro ⟨-, ⟨content, access, modified⟩, hn, hc⟩
      cases hc
      exact hfull access modified hn

def Grows (t u : FileTree) : Prop := ∃ added, t.Extends added u

theorem Grows.refl (t : FileTree) : t.Grows t := ⟨_, .refl t⟩

theorem Grows.trans (h : t.Grows u) (h' : u.Grows v) : t.Grows v := by
  obtain ⟨a, ha⟩ := h
  obtain ⟨b, hb⟩ := h'
  exact ⟨_, ha.trans hb⟩

theorem grows_append {id : NodeId} {data : Bytes} (h : t.append id data = .ok u) : t.Grows u := by
  cases hn : t.node? id with
  | some n => exact ⟨_, extends_append hn h⟩
  | none =>
      rw [append, hn] at h
      cases h
      exact .refl t

section Following

variable (h : t.Extends a u)
include h

/-- The octets of a file are those it had before, or none if it was not there, and those added. -/
theorem Extends.data_eq {id : NodeId} {data : Bytes} {access : Access} {modified : Moment}
    (hn : u.node? id = some ⟨.file data, access, modified⟩) : data = t.dataAt id ++ a id := by
  cases ht : t.node? id with
  | none =>
      rcases h.made id _ ht hn with hfile | hdir
      · cases hfile
        simp [dataAt, ht]
      · cases hdir
  | some m =>
      obtain ⟨c, hu, hc⟩ := h.kept id m ht
      rw [hn] at hu
      cases hu
      obtain ⟨content, access, modified⟩ := m
      cases hc
      simp [dataAt, ht, Content.data]

theorem Extends.isFile_or {id : NodeId} {n : Node} (hn : u.node? id = some n)
    (hdir : n.content.isDirectory = false) :
    n.content.isFile = true ∨ ∃ m, t.node? id = some m ∧ m.content.isFile = false := by
  cases ht : t.node? id with
  | none =>
      rcases h.made id n ht hn with hfile | hmade
      · rw [hfile]
        exact Or.inl rfl
      · rw [hdir] at hmade
        cases hmade
  | some m =>
      obtain ⟨c, hu, hc⟩ := h.kept id m ht
      rw [hn] at hu
      cases hu
      cases hm : m.content.isFile with
      | true => exact Or.inl (hc.isFile_eq.trans hm)
      | false => exact Or.inr ⟨m, rfl, hm⟩

theorem Extends.targetOf?_eq (id : NodeId) : u.targetOf? id = t.targetOf? id := by
  cases ht : t.node? id with
  | some n =>
      obtain ⟨c, hu, hc⟩ := h.kept id n ht
      obtain ⟨content, access, modified⟩ := n
      cases hc <;> simp [targetOf?, ht, hu]
  | none =>
      cases hu : u.node? id with
      | none => simp [targetOf?, ht, hu]
      | some n =>
          obtain ⟨content, access, modified⟩ := n
          rcases h.made id _ ht hu with hfile | hdir
          · cases hfile
            simp [targetOf?, ht, hu]
          · cases content with
            | directory entries => simp [targetOf?, ht, hu]
            | file | link | socket | device => cases hdir

theorem Extends.entriesAt {s : Spot} {access : Access} {entries : List DirEntry}
    (hs : t.entriesAt s = .ok (access, entries)) :
    ∃ more, u.entriesAt s = .ok (access, entries ++ more) := by
  unfold FileTree.entriesAt at hs
  split at hs
  · next old access' modified hn =>
      cases hs
      obtain ⟨c, hu, hc⟩ := h.kept _ _ hn
      cases hc with
      | directory _ more => exact ⟨more, by simp [FileTree.entriesAt, hu]⟩
  · cases hs
  · cases hs

theorem Extends.lookup {s : Spot} {name : Bytes} {entry : DirEntry}
    (hl : t.lookup s name = .ok (some entry)) : u.lookup s name = .ok (some entry) := by
  obtain ⟨access, entries, hs, hsearch, hlen, hfind⟩ := entriesAt_of_lookup hl
  obtain ⟨more, hu⟩ := h.entriesAt hs
  have hfind' : find? (entries ++ more) name = some entry := by
    rw [find?, List.find?_append]
    rw [find?] at hfind
    rw [← hfind]
    rfl
  simp [FileTree.lookup, hu, hsearch, Nat.not_lt.2 hlen, hfind']

theorem Extends.append_eq_error {id : NodeId} {n : Node} (hn : t.node? id = some n) (data : Bytes)
    (e : Fault) : u.append id data = .error e ↔ t.append id data = .error e := by
  obtain ⟨c, hu, hc⟩ := h.kept id n hn
  simp [FileTree.append_eq_error, hn, hu, hc.eq_device_iff]

theorem Extends.passSlash {s : Spot} (hp : t.passSlash ⟨true, false⟩ s = .ok ()) :
    u.passSlash ⟨true, false⟩ s = .ok () := by
  cases hs : t.entriesAt s with
  | error e => simp [FileTree.passSlash, hs] at hp
  | ok found =>
      obtain ⟨more, hu⟩ := h.entriesAt hs
      simp [FileTree.passSlash, hu]

theorem Extends.passDots {s : Spot} (hp : t.passDots ⟨true, false⟩ s = .ok ()) :
    u.passDots ⟨true, false⟩ s = .ok () := by
  cases hs : t.entriesAt s with
  | error e => simp [FileTree.passDots, hs] at hp
  | ok found =>
      obtain ⟨more, hu⟩ := h.entriesAt hs
      simpa [FileTree.passDots, hs, hu] using hp

theorem Extends.moves {j k : Journey} (hm : t.Moves ⟨true, false⟩ j k) :
    u.Moves ⟨true, false⟩ j k := by
  cases hm with
  | directory hp => exact .directory (h.passSlash hp)
  | stay hp => exact .stay (h.passDots hp)
  | up hp => exact .up (h.passDots hp)
  | into hl hnode =>
      have hlook := h.lookup (lookup_of_lookupAlong hl)
      refine .into ?_ ((h.targetOf?_eq _).trans hnode)
      rw [lookupAlong_of_lookup (by simp)]
      exact hlook
  | link hl hnode =>
      have hlook := h.lookup (lookup_of_lookupAlong hl)
      refine .link ?_ ((h.targetOf?_eq _).trans hnode)
      rw [lookupAlong_of_lookup (by simp)]
      exact hlook

theorem Extends.leads {j k : Journey} (hl : t.Leads ⟨true, false⟩ j k) :
    u.Leads ⟨true, false⟩ j k :=
  Relation.ReflTransGen.mono (fun _ _ hm => h.moves hm) _ _ hl

/-- A path that can be followed leads to the same place when the tree has grown. -/
theorem Extends.reach {p : Bytes} {s : Spot} (hr : t.reach p = .ok s) : u.reach p = .ok s := by
  obtain ⟨hp, hc, k, hlead, hend⟩ := ends_of_land (bind_spot_eq_ok hr)
  rw [← h.workingDirectory] at hlead
  cases hend
  exact reach_of_leads hp hc (h.leads hlead)

end Following

theorem node?_of_openOrCreate {p : Bytes} {id : NodeId} (h : t.openOrCreate p = .ok (u, id)) :
    ∃ n, u.node? id = some n ∧ n.content.isDirectory = false := by
  rcases openOrCreate_eq_ok h with ⟨s, n, -, hn, hw, rfl, rfl⟩ | ⟨dir, name, -, hcreate⟩
  · refine ⟨n, hn, ?_⟩
    cases hc : n.content with
    | directory entries => simp [writable, hc] at hw
    | file | link | socket | device => rfl
  · obtain ⟨c, hn, hc⟩ := node?_of_create hcreate
    exact ⟨_, hn, hc.isDirectory_eq⟩

/-- The path of a file that has been opened leads to it. -/
theorem reach_of_openOrCreate {p : Bytes} {id : NodeId} (h : t.openOrCreate p = .ok (u, id)) :
    ∃ s, u.reach p = .ok s ∧ s.node = id := by
  have hext := extends_openOrCreate h
  rcases openOrCreate_eq_ok h with ⟨s, n, hland, -, -, rfl, rfl⟩ | ⟨dir, name, hland, hcreate⟩
  · refine ⟨s, ?_, rfl⟩
    rw [reach, hland]
    rfl
  · obtain ⟨hp, hc, k, hlead, hend⟩ := ends_of_land hland
    cases hend with
    | vacant hvacant =>
        rw [lookupAlong_of_lookup (by simp)] at hvacant
        obtain ⟨fileName, hlook⟩ := lookup_of_create hvacant hcreate
        obtain ⟨-, -, hid, -⟩ := create_eq_ok hcreate
        have hnode : u.targetOf? id = none := by
          rw [hext.targetOf?_eq, hid]
          simp [targetOf?, node?]
        have halong : u.lookupAlong ⟨true, false⟩ dir name [] = .ok (some ⟨fileName, id⟩) := by
          rw [lookupAlong_of_lookup (by simp), hlook]
        rw [← hext.workingDirectory] at hlead
        exact ⟨_, reach_of_leads hp hc ((hext.leads hlead).tail (.into halong hnode)), rfl⟩

end FileTree

end IsolatedSite
