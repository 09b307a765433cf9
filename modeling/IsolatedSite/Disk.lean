import IsolatedSite.FileTree.Edit

namespace IsolatedSite.Disk

def linkLimit : Nat := FileTree.linkLimit

def nowhere : Bytes := [Path.slash, 0]

def attempt {α : Type} (x : IO α) : IO (Option α) := do
  try return some (← x) catch _ => return none

def metadata? (p : Bytes) : IO (Option IO.FS.Metadata) :=
  attempt do ((← IO.currentDir) / Utf8.lossyText p).symlinkMetadata

/-- Where a link leads to in the end. One that never gets there leads to itself. -/
def target (p : Bytes) : IO Bytes := do
  match ← attempt (IO.FS.realPath (Utf8.lossyText p)) with
  | some path => return Utf8.octets path.toString
  | none =>
    try
      let _ ← ((← IO.currentDir) / Utf8.lossyText p).metadata
      return nowhere
    catch
      | .noFileOrDirectory _ _ _ => return nowhere
      | _ => return p

def entryNames (p : Bytes) : IO (Option (List Bytes)) := do
  let entries ← attempt do ((← IO.currentDir) / Utf8.lossyText p).readDir
  return entries.map fun es => es.toList.map fun e => Utf8.octets e.fileName

def isKnown (t : FileTree) (p : Bytes) : Bool :=
  match t.land false p with
  | .ok (.found _) => true
  | _ => false

/-- Adds the node at a path below directories that are there. Data are read only if they are wanted;
what cannot be read is marked so. -/
def addNode (wantsData : Bool) (t : FileTree) (p : Bytes) : IO FileTree := do
  if !wantsData && isKnown t p then return t
  let some m ← metadata? p | return t
  let modified := Moment.ofParts m.modified.sec m.modified.nsec.toNat
  let added : Except Fault FileTree ←
    match m.type with
    | .dir => do
      let readable := (← entryNames p).isSome
      pure ((t.makeDirectories p).1.setAccess p ⟨readable, true, true⟩)
    | .file => do
      let data ←
        if wantsData then attempt (IO.FS.readBinFile (Utf8.lossyText p)) else pure (some .empty)
      pure do
        let t ← t.writeFile p ((data.map ByteArray.toList).getD []) modified
        t.setAccess p ⟨data.isSome, true, false⟩
    | .symlink => pure (t.makeLink p (← target p))
    | .other => pure (t.makeSocket p)
  return added.toOption.getD t

def linkAt? (t : FileTree) (p : Bytes) : Option Bytes :=
  match t.land false p with
  | .ok (.found s) => t.targetOf? s.node
  | _ => none

def addPath (wantsData : Bool) : Nat → FileTree → Bytes → IO FileTree
  | 0, t, _ => return t
  | fuel + 1, t, p => do
    let mut t := t
    for q in (Path.ancestry (p.length + 1) p).reverse do
      t ← addNode (wantsData && q == p) t q
      if let some target := linkAt? t q then
        return ← addPath wantsData fuel t (target ++ p.drop q.length)
    for name in (← entryNames p).getD [] do
      let entry := Path.push p name
      t ← addNode false t entry
      if let some target := linkAt? t entry then t ← addNode false t target
    return t

def survey (wantsData : Bool) (paths : List Bytes) : IO FileTree :=
  paths.foldlM (addPath wantsData linkLimit) .bare

end IsolatedSite.Disk
