import IsolatedSite.FileTree.Basic

namespace IsolatedSite

inductive Hop where
  | into (name : Bytes)
  | up
  | stay
  | directory
  deriving DecidableEq

/-- How a path is followed: whether a link that ends it is, and whether the path of every place on
the way is spelled out. Where it is not, dots need the right to search the directory they start from,
as names do. Where it is, dots are struck out of the text, and the path so far has to be short
enough. -/
structure Gait where
  follow : Bool
  spelled : Bool
  deriving DecidableEq

inductive Landing where
  | found (spot : Spot)
  | vacant (directory : Spot) (name : Bytes)
  deriving DecidableEq

def Landing.spot : Landing → Except Fault Spot
  | .found s => .ok s
  | .vacant _ _ => .error .noEntry

namespace Hop

def ofSegment? (segment : Bytes) : Option Hop :=
  if segment.isEmpty then none
  else if segment = Path.hereName then some .stay
  else if segment = Path.upName then some .up
  else some (.into segment)

def ofPath (p : Bytes) : List Hop :=
  (splitOn Path.slash p).filterMap ofSegment? ++ if Path.endsInSlash p then [.directory] else []

def askDirectory : List Hop → Bool
  | [] => false
  | .into _ :: _ => false
  | .up :: _ => true
  | _ :: hops => hops.isEmpty || askDirectory hops

end Hop

namespace FileTree

/-- An absolute path starts at the root, whatever the place it is read from. -/
def startOf (from_ : Spot) (p : Bytes) : Spot := if Path.isAbsolute p then .root else from_

def entriesAt (t : FileTree) (s : Spot) : Except Fault (Access × List DirEntry) :=
  match t.node? s.node with
  | some ⟨.directory entries, access, _⟩ => .ok (access, entries)
  | some _ => .error .notDirectory
  | none => .error .noEntry

/-- Looks up a name. The search right is checked before the name is. -/
def lookup (t : FileTree) (s : Spot) (name : Bytes) : Except Fault (Option DirEntry) :=
  match t.entriesAt s with
  | .error e => .error e
  | .ok (access, entries) =>
    if !access.search then .error .denied
    else if name.length > 255 then .error .nameTooLong
    else .ok (find? entries name)

def targetOf? (t : FileTree) (id : NodeId) : Option Bytes :=
  match t.node? id with
  | some ⟨.link target, _, _⟩ => some target
  | _ => none

def pathLimit : Nat := 4096

/-- Checks what a name was found to be, if it is spelled out with a slash behind it. Links are not, as
their target takes their place. -/
def checkSlashed (t : FileTree) (length : Nat) (found : Except Fault (Option DirEntry)) :
    Except Fault (Option DirEntry) :=
  match found with
  | .error e => if length ≥ pathLimit then .error .nameTooLong else .error e
  | .ok none => if length ≥ pathLimit then .error .nameTooLong else .ok none
  | .ok (some entry) =>
    match t.node? entry.node with
    | some ⟨.link _, _, _⟩ => .ok (some entry)
    | some ⟨.directory _, _, _⟩ =>
      if length ≥ pathLimit then .error .nameTooLong else .ok (some entry)
    | _ => if length ≥ pathLimit then .error .nameTooLong else .error .notDirectory

def lookupAlong (t : FileTree) (g : Gait) (s : Spot) (name : Bytes) (hops : List Hop) :
    Except Fault (Option DirEntry) :=
  if !g.spelled then t.lookup s name
  else
    let length := (Path.push s.path name).length
    if length ≥ pathLimit then .error .nameTooLong
    else if Hop.askDirectory hops then t.checkSlashed (length + 1) (t.lookup s name)
    else t.lookup s name

def passSlash (t : FileTree) (g : Gait) (s : Spot) : Except Fault Unit :=
  if g.spelled then .ok ()
  else
    match t.entriesAt s with
    | .error e => .error e
    | .ok _ => .ok ()

def passDots (t : FileTree) (g : Gait) (s : Spot) : Except Fault Unit :=
  if g.spelled then .ok ()
  else
    match t.entriesAt s with
    | .error e => .error e
    | .ok (access, _) => if access.search then .ok () else .error .denied

def walkWith (t : FileTree) (g : Gait) (jump : Spot → List Hop → Except Fault Landing) :
    Spot → List Hop → Except Fault Landing
  | s, [] => .ok (.found s)
  | s, .directory :: hops =>
    match t.passSlash g s with
    | .error e => .error e
    | .ok _ => walkWith t g jump s hops
  | s, .stay :: hops =>
    match t.passDots g s with
    | .error e => .error e
    | .ok _ => walkWith t g jump s hops
  | s, .up :: hops =>
    match t.passDots g s with
    | .error e => .error e
    | .ok _ => walkWith t g jump s.up hops
  | s, .into name :: hops =>
    match t.lookupAlong g s name hops with
    | .error e => .error e
    | .ok none => if hops.isEmpty then .ok (.vacant s name) else .error .noEntry
    | .ok (some entry) =>
      match t.targetOf? entry.node with
      | some target =>
        if hops.isEmpty && !g.follow then .ok (.found (s.into entry.name entry.node))
        else jump (startOf s target) (Hop.ofPath target ++ hops)
      | none => walkWith t g jump (s.into entry.name entry.node) hops

def walk (t : FileTree) (g : Gait) : Nat → Spot → List Hop → Except Fault Landing
  | 0 => walkWith t g fun _ _ => .error .linkLoop
  | links + 1 => walkWith t g (walk t g links)

def linkLimit : Nat := 40

def landWith (t : FileTree) (g : Gait) (p : Bytes) : Except Fault Landing :=
  if p.contains 0 then .error .nulInPath
  else if p.isEmpty then .error .noEntry
  else t.walk g linkLimit (startOf t.workingDirectory p) (Hop.ofPath p)

def checkLength (p : Bytes) : Except Fault Unit :=
  if p.contains 0 then .error .nulInPath
  else if p.length ≥ pathLimit then .error .nameTooLong
  else .ok ()

def land (t : FileTree) (follow : Bool) (p : Bytes) : Except Fault Landing :=
  (checkLength p).bind fun _ => t.landWith ⟨follow, false⟩ p

/-- The canonical place that a path denotes, all links followed. Dots need no right and do not count
for its length. -/
def canonical (t : FileTree) (p : Bytes) : Except Fault Spot :=
  (t.landWith ⟨true, true⟩ p).bind Landing.spot

def reach (t : FileTree) (p : Bytes) : Except Fault Spot := (t.land true p).bind Landing.spot

def stat (t : FileTree) (p : Bytes) : Except Fault Node :=
  match t.reach p with
  | .ok s => (t.node? s.node).elim (.error .noEntry) .ok
  | .error e => .error e

def isDirectoryAt (t : FileTree) (p : Bytes) : Bool :=
  match t.stat p with
  | .ok n => n.content.isDirectory
  | .error _ => false

def openForReading (t : FileTree) (id : NodeId) : Except Fault NodeId :=
  match t.node? id with
  | none => .error .noEntry
  | some n =>
    if !n.access.read then .error .denied
    else
      match n.content with
      | .socket => .error .noDevice
      | _ => .ok id

def contents (t : FileTree) (p : Bytes) : Except Fault Bytes :=
  match t.reach p with
  | .error e => .error e
  | .ok s =>
    match t.openForReading s.node with
    | .error e => .error e
    | .ok id =>
      match t.node? id with
      | some ⟨.file data, _, _⟩ => .ok data
      | some ⟨.directory _, _, _⟩ => .error .isDirectory
      | _ => .ok []

def list (t : FileTree) (s : Spot) : Except Fault (List DirEntry) :=
  match t.entriesAt s with
  | .error e => .error e
  | .ok (access, entries) => if access.read then .ok entries else .error .denied

end FileTree

end IsolatedSite
