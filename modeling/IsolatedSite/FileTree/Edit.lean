import IsolatedSite.FileTree.Walk

namespace IsolatedSite

namespace Content

/-- Adds an entry at the end of a directory. Nothing changes if the name is taken or the node is not
one of the first. -/
def withEntry (size : Nat) (e : DirEntry) : Content → Content
  | .directory entries =>
    if e.name.octets ∉ entries.map (·.name.octets) ∧ e.node < size then .directory (entries ++ [e])
    else .directory entries
  | content => content

def withoutEntry (name : FileName) : Content → Content
  | .directory entries => .directory (entries.filter (·.name.octets != name.octets))
  | content => content

def withData (data : Bytes) : Content → Content
  | .file _ => .file data
  | content => content

variable {size : Nat} {c : Content}

theorem IsSound.withEntry (h : c.IsSound size) (e : DirEntry) : (c.withEntry size e).IsSound size := by
  cases c with
  | directory entries =>
      rw [Content.withEntry]
      split
      · next hnew =>
          refine ⟨?_, fun other hother => ?_⟩
          · rw [List.map_append]
            exact (List.perm_append_singleton _ _).nodup_iff.2 (List.nodup_cons.2 ⟨hnew.1, h.1⟩)
          · rcases List.mem_append.1 hother with hother | hother
            · exact h.2 other hother
            · rw [List.mem_singleton.1 hother]
              exact hnew.2
      · exact h
  | file | link | socket | device => trivial

theorem IsSound.withoutEntry (h : c.IsSound size) (name : FileName) :
    (c.withoutEntry name).IsSound size := by
  cases c with
  | directory entries =>
      refine ⟨h.1.sublist ((List.filter_sublist).map _), fun e he => ?_⟩
      exact h.2 e (List.mem_filter.1 he).1
  | file | link | socket | device => trivial

theorem IsSound.withData (h : c.IsSound size) (data : Bytes) : (c.withData data).IsSound size := by
  cases c with
  | directory entries => exact h
  | file | link | socket | device => trivial

end Content

namespace FileTree

def mayWriteIn (t : FileTree) (dir : Spot) : Bool :=
  match t.node? dir.node with
  | some n => n.access.write && n.access.search
  | none => false

def enter (t : FileTree) (dir : NodeId) (name : FileName) (id : NodeId) : FileTree :=
  t.update dir (fun n => { n with content := n.content.withEntry t.nodes.length ⟨name, id⟩ })
    fun _ hn => hn.withEntry ⟨name, id⟩

/-- Takes an entry out of a directory. The node itself stays for those who opened it. -/
def leave (t : FileTree) (dir : NodeId) (name : FileName) : FileTree :=
  t.update dir (fun n => { n with content := n.content.withoutEntry name })
    fun _ hn => hn.withoutEntry name

def create (t : FileTree) (dir : Spot) (name : Bytes) (n : Node) (hn : n.content.IsSound 0) :
    Except Fault (FileTree × NodeId) :=
  if !t.mayWriteIn dir then .error .denied
  else
    match FileName.ofOctets? name with
    | none => .error .invalidArgument
    | some name =>
      let (t, id) := t.addNode n hn
      .ok (t.enter dir.node name id, id)

def unset : Moment := ⟨1000000000, 0⟩

def bare : FileTree where
  nodes := [⟨.directory [], .forDirectories, unset⟩]
  workingDirectory := .root
  sound n hn := by
    rw [List.mem_singleton.1 hn]
    exact Content.isSound_empty.mono (Nat.zero_le _)

def makeDirectory (t : FileTree) (p : Bytes) : Except Fault FileTree :=
  match t.land false p with
  | .error e => .error e
  | .ok (.found _) => .error .alreadyThere
  | .ok (.vacant dir name) =>
    (t.create dir name ⟨.directory [], .forDirectories, unset⟩ Content.isSound_empty).map (·.1)

/-- Makes the first path of a list after those that follow it, which are its parents. A directory
that is there already will do. What has been made stays when a later step fails. -/
def makeChain (t : FileTree) : List Bytes → FileTree × Except Fault Unit
  | [] => (t, .ok ())
  | p :: parents =>
    match t.makeDirectory p with
    | .ok t => (t, .ok ())
    | .error e =>
      if e.kind = .notFound then
        match makeChain t parents with
        | (above, .error e) => (above, .error e)
        | (above, .ok ()) =>
          match above.makeDirectory p with
          | .ok t => (t, .ok ())
          | .error e => (above, if above.isDirectoryAt p then .ok () else .error e)
      else (t, if t.isDirectoryAt p then .ok () else .error e)

def makeDirectories (t : FileTree) (p : Bytes) : FileTree × Except Fault Unit :=
  t.makeChain (Path.ancestry (p.length + 1) (Path.trimmed p))

def makeParents (t : FileTree) (p : Bytes) : FileTree × Except Fault Unit :=
  match Path.parent? p with
  | none => (t, .ok ())
  | some above => if above.isEmpty then (t, .ok ()) else t.makeDirectories above

def writable (n : Node) : Except Fault Unit :=
  match n.content with
  | .directory _ => .error .isDirectory
  | _ =>
    if !n.access.write then .error .denied
    else
      match n.content with
      | .socket => .error .noDevice
      | _ => .ok ()

def openOrCreate (t : FileTree) (p : Bytes) : Except Fault (FileTree × NodeId) :=
  match (checkLength p).bind fun _ =>
      t.land true (if Path.endsInSlash p then Path.trimmed p else p) with
  | .error e => .error e
  | .ok (.vacant dir name) =>
    if Path.endsInSlash p then .error .isDirectory
    else t.create dir name ⟨.file [], .forFiles, unset⟩ trivial
  | .ok (.found s) =>
    match t.node? s.node with
    | none => .error .noEntry
    | some n =>
      if Path.endsInSlash p then .error .isDirectory
      else (writable n).map fun _ => (t, s.node)

def setData (t : FileTree) (id : NodeId) (data : Bytes) : FileTree :=
  t.update id (fun n => { n with content := n.content.withData data }) fun _ hn => hn.withData data

def setModified (t : FileTree) (id : NodeId) (m : Moment) : FileTree :=
  t.update id (fun n => { n with modified := m }) fun _ hn => hn

def append (t : FileTree) (id : NodeId) (data : Bytes) : Except Fault FileTree :=
  match t.node? id with
  | some ⟨.file old, _, _⟩ => .ok (t.setData id (old ++ data))
  | some ⟨.device .full, _, _⟩ => .error .storageFull
  | _ => .ok t

def writeFile (t : FileTree) (p data : Bytes) (m : Moment) : Except Fault FileTree := do
  let (t, id) ← t.openOrCreate p
  return (t.setData id data).setModified id m

def makeLink (t : FileTree) (p target : Bytes) : Except Fault FileTree :=
  match (checkLength target).bind fun _ =>
      if target.isEmpty then .error .noEntry else t.land false p with
  | .error e => .error e
  | .ok (.found _) => .error .alreadyThere
  | .ok (.vacant dir name) =>
    (t.create dir name ⟨.link target, .forDirectories, unset⟩ trivial).map (·.1)

def makeSocket (t : FileTree) (p : Bytes) : Except Fault FileTree :=
  match t.land false p with
  | .error e => .error e
  | .ok (.found _) => .error .addressInUse
  | .ok (.vacant dir name) =>
    (t.create dir name ⟨.socket, .forDirectories, unset⟩ trivial).map (·.1)

def makeDevice (t : FileTree) (p : Bytes) (kind : Device) : Except Fault FileTree :=
  match t.land false p with
  | .error e => .error e
  | .ok (.found _) => .error .alreadyThere
  | .ok (.vacant dir name) =>
    (t.create dir name ⟨.device kind, .forFiles, unset⟩ trivial).map (·.1)

/-- A directory that is removed has to be open to its owner, and so has each below it. Only what is
empty need not be written to. -/
def mayClear (t : FileTree) : Nat → NodeId → Bool
  | 0, _ => true
  | fuel + 1, id =>
    match t.node? id with
    | some ⟨.directory entries, access, _⟩ =>
      access.read && (entries.isEmpty || (access.write && access.search)) &&
        entries.all fun e => mayClear t fuel e.node
    | _ => true

def remove (t : FileTree) (p : Bytes) : Except Fault FileTree :=
  match t.land false p with
  | .error e => .error e
  | .ok (.vacant _ _) => .error .noEntry
  | .ok (.found ⟨[]⟩) => .error .denied
  | .ok (.found ⟨(name, id) :: trail⟩) =>
    if !t.mayWriteIn ⟨trail⟩ || !t.mayClear t.nodes.length id then .error .denied
    else .ok (t.leave (Spot.node ⟨trail⟩) name)

def mayReplace (source target : Node) : Except Fault Unit :=
  match source.content, target.content with
  | .directory _, .directory [] => .ok ()
  | .directory _, .directory _ => .error .notEmpty
  | .directory _, _ => .error .notDirectory
  | _, .directory _ => .error .isDirectory
  | _, _ => .ok ()

def move (t : FileTree) (p q : Bytes) : Except Fault FileTree :=
  match t.land false p, t.land false q with
  | .error e, _ => .error e
  | .ok (.vacant _ _), _ => .error .noEntry
  | .ok (.found ⟨[]⟩), _ => .error .denied
  | _, .error e => .error e
  | .ok (.found ⟨(name, id) :: trail⟩), .ok landing =>
    match t.node? id with
    | none => .error .noEntry
    | some n =>
      let source : Spot := ⟨trail⟩
      match landing with
      | .vacant dir newName =>
        if dir.isUnder ⟨(name, id) :: trail⟩ then .error .invalidArgument
        else if !t.mayWriteIn source || !t.mayWriteIn dir then .error .denied
        else
          match FileName.ofOctets? newName with
          | none => .error .invalidArgument
          | some newName => .ok ((t.leave source.node name).enter dir.node newName id)
      | .found ⟨[]⟩ => .error .denied
      | .found ⟨(newName, oldId) :: above⟩ =>
        if oldId = id then .ok t
        else if Spot.isUnder ⟨(newName, oldId) :: above⟩ ⟨(name, id) :: trail⟩ then
          .error .invalidArgument
        else
          match t.node? oldId with
          | none => .error .noEntry
          | some old =>
            match mayReplace n old with
            | .error e => .error e
            | .ok () =>
              if !t.mayWriteIn source || !t.mayWriteIn ⟨above⟩ then .error .denied
              else
                let t := (t.leave source.node name).leave (Spot.node ⟨above⟩) newName
                .ok (t.enter (Spot.node ⟨above⟩) newName id)

def setAccess (t : FileTree) (p : Bytes) (access : Access) : Except Fault FileTree :=
  match t.reach p with
  | .error e => .error e
  | .ok s =>
    match t.node? s.node with
    | none => .error .noEntry
    | some _ => .ok (t.update s.node (fun n => { n with access := access }) fun _ hn => hn)

def setLength (t : FileTree) (p : Bytes) (length : Nat) (m : Moment) : Except Fault FileTree :=
  match t.reach p with
  | .error e => .error e
  | .ok s =>
    match t.node? s.node with
    | none => .error .noEntry
    | some n =>
      match writable n, n.content with
      | .error e, _ => .error e
      | .ok (), .file data =>
        let data := data.take length ++ List.replicate (length - data.length) 0
        .ok ((t.setData s.node data).setModified s.node m)
      | .ok (), _ => .error .invalidArgument

end FileTree

end IsolatedSite
