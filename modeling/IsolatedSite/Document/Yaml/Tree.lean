import IsolatedSite.Document.Yaml.Node
import IsolatedSite.Document.Yaml.Token

namespace IsolatedSite.Yaml

/-- The tokens that are left, the stem that handles stand for, the anchors by name, and the nodes
that have one. -/
structure Source where
  tokens : List Token
  stems : List (String × String)
  anchors : List (String × Nat)
  anchorCount : Nat
  nodes : List (Nat × Node)

namespace Source

def peek (s : Source) : Option Token := s.tokens.head?

def skip (s : Source) : Source := { s with tokens := s.tokens.tail }

def addAnchor (s : Source) (name : String) : Nat × Source :=
  let id := s.anchorCount + 1
  (id, { s with anchors := (name, id) :: s.anchors, anchorCount := id })

def keep (s : Source) (id : Option Nat) (n : Node) : Node × Source :=
  match id with
  | some id => (n, { s with nodes := (id, n) :: s.nodes })
  | none => (n, s)

def resolveTag? (s : Source) (handle suffix : String) : Option Node.Tag :=
  match s.stems.lookup handle with
  | some stem => some ⟨stem, suffix⟩
  | none =>
    if handle = "!!" then some ⟨Node.coreStem, suffix⟩
    else if handle.length ≥ 2 then none
    else some ⟨handle, suffix⟩

structure Properties where
  anchor : Option Nat
  tag : Option Node.Tag

def properties (s : Source) : Option (Properties × Source) :=
  match s.tokens with
  | .anchor name :: .tag handle suffix :: rest =>
    let (id, s) := s.addAnchor name
    (s.resolveTag? handle suffix).map fun tag => (⟨some id, some tag⟩, { s with tokens := rest })
  | .tag handle suffix :: .anchor name :: rest =>
    (s.resolveTag? handle suffix).map fun tag =>
      let (id, s) := s.addAnchor name
      (⟨some id, some tag⟩, { s with tokens := rest })
  | .anchor name :: rest =>
    let (id, s) := s.addAnchor name
    some (⟨some id, none⟩, { s with tokens := rest })
  | .tag handle suffix :: rest =>
    (s.resolveTag? handle suffix).map fun tag => (⟨none, some tag⟩, { s with tokens := rest })
  | _ => some (⟨none, none⟩, s)

def alias? (s : Source) (name : String) : Option (Node × Source) :=
  (s.anchors.lookup name).map fun id => ((s.nodes.lookup id).getD .broken, s.skip)

def isAt (s : Source) (ts : List Token) : Bool := s.peek.any ts.contains

end Source

abbrev Nodes := Option (List Node × Source)

def emptyNode (p : Source.Properties) (s : Source) : Option (Node × Source) :=
  if p.anchor.isSome || p.tag.isSome then some (s.keep p.anchor (.ofScalar true p.tag "")) else none

mutual

/-- One node. In a mapping of a block a list may stand no further to the right than its key. -/
def node (block indentless : Bool) : Nat → Source → Option (Node × Source)
  | 0, _ => none
  | fuel + 1, s =>
    match s.peek with
    | some (.alias name) => s.alias? name
    | _ =>
      match s.properties with
      | none => none
      | some (p, s) =>
        let list := fun (r : List Node × Source) => r.2.keep p.anchor (.list r.1)
        let table := fun (r : List Node × Source) =>
          (Node.ofPairs? r.1).map fun n => r.2.keep p.anchor n
        match s.peek with
        | some (.scalar plain text) => some (s.skip.keep p.anchor (.ofScalar plain p.tag text))
        | some .flowSequenceStart => (flowItems true fuel s.skip).map list
        | some .flowMappingStart => (flowPairs true fuel s.skip).bind table
        | some .blockSequenceStart =>
          if block then (blockItems fuel s.skip).map list else emptyNode p s
        | some .blockMappingStart =>
          if block then (blockPairs fuel s.skip).bind table else emptyNode p s
        | some .blockEntry =>
          if indentless then (indentlessItems fuel s).map list else emptyNode p s
        | _ => emptyNode p s

def nodeUnless (stops : List Token) (block indentless : Bool) :
    Nat → Source → Option (Node × Source)
  | 0, _ => none
  | fuel + 1, s => if s.isAt stops then some (.null, s) else node block indentless fuel s

def blockItems : Nat → Source → Nodes
  | 0, _ => none
  | fuel + 1, s =>
    match s.peek with
    | some .blockEnd => some ([], s.skip)
    | some .blockEntry =>
      match nodeUnless [.blockEntry, .blockEnd] true false fuel s.skip with
      | some (n, s) => (blockItems fuel s).map fun r => (n :: r.1, r.2)
      | none => none
    | _ => none

def indentlessItems : Nat → Source → Nodes
  | 0, _ => none
  | fuel + 1, s =>
    match s.peek with
    | some .blockEntry =>
      match nodeUnless [.blockEntry, .key, .value, .blockEnd] true false fuel s.skip with
      | some (n, s) => (indentlessItems fuel s).map fun r => (n :: r.1, r.2)
      | none => none
    | _ => some ([], s)

def blockPairs : Nat → Source → Nodes
  | 0, _ => none
  | fuel + 1, s =>
    let stops := [Token.key, .value, .blockEnd]
    let key? :=
      match s.peek with
      | some .key => nodeUnless stops true true fuel s.skip
      | some .value => some (.null, s)
      | _ => none
    if s.peek = some .blockEnd then some ([], s.skip)
    else
      match key? with
      | none => none
      | some (key, s) =>
        let value? :=
          if s.peek = some .value then nodeUnless stops true true fuel s.skip else some (.null, s)
        match value? with
        | some (value, s) => (blockPairs fuel s).map fun r => (key :: value :: r.1, r.2)
        | none => none

def flowValue : Nat → Source → Option (Node × Source)
  | 0, _ => none
  | fuel + 1, s =>
    if s.peek = some .value then
      nodeUnless [.flowEntry, .flowMappingEnd] false false fuel s.skip
    else some (.null, s)

def flowPairs (first : Bool) : Nat → Source → Nodes
  | 0, _ => none
  | fuel + 1, s =>
    if s.peek = some .flowMappingEnd then some ([], s.skip)
    else if !first && s.peek ≠ some .flowEntry then none
    else
      let s := if first then s else s.skip
      if s.peek = some .flowMappingEnd then some ([], s.skip)
      else
        let key? :=
          match s.peek with
          | some .key =>
            nodeUnless [.value, .flowEntry, .flowMappingEnd] false false fuel s.skip
          | some .value => some (.null, s)
          | _ => none
        let pair? :=
          if s.peek = some .key ∨ s.peek = some .value then
            key?.bind fun (key, s) => (flowValue fuel s).map fun (value, s) => ([key, value], s)
          else (node false false fuel s).map fun (key, s) => ([key, .null], s)
        match pair? with
        | some (pair, s) => (flowPairs false fuel s).map fun r => (pair ++ r.1, r.2)
        | none => none

/-- A mapping of one pair in a list, after the sign of its key. A token that cannot begin the key is
taken for the end of it. -/
def singlePair : Nat → Source → Option (Node × Source)
  | 0, _ => none
  | fuel + 1, s =>
    let key? :=
      if s.isAt [.value, .flowEntry, .flowSequenceEnd] then some (.null, s.skip)
      else node false false fuel s
    match key? with
    | none => none
    | some (key, s) =>
      let value? :=
        if s.peek = some .value then
          nodeUnless [.flowEntry, .flowSequenceEnd] false false fuel s.skip
        else some (.null, s)
      match value? with
      | some (value, s) => (Node.ofPairs? [key, value]).map fun n => (n, s)
      | none => none

def flowItems (first : Bool) : Nat → Source → Nodes
  | 0, _ => none
  | fuel + 1, s =>
    if s.peek = some .flowSequenceEnd then some ([], s.skip)
    else if !first && s.peek ≠ some .flowEntry then none
    else
      let s := if first then s else s.skip
      if s.peek = some .flowSequenceEnd then some ([], s.skip)
      else
        let item? :=
          if s.peek = some .key then singlePair fuel s.skip else node false false fuel s
        match item? with
        | some (n, s) => (flowItems false fuel s).map fun r => (n :: r.1, r.2)
        | none => none

end

/-- The directives before a document. Each one puts aside what those before it declared, and the
version is given once. -/
def directives : List Token → Bool → List (String × String) →
    Option (List (String × String) × List Token)
  | .version :: rest, versioned, _ => if versioned then none else directives rest true []
  | .tagStem handle stem :: rest, versioned, _ => directives rest versioned [(handle, stem)]
  | rest, _, stems => some (stems, rest)

def isDirective : Token → Bool
  | .version => true
  | .tagStem _ _ => true
  | _ => false

def startsNoNode (t : Token) : Bool :=
  isDirective t || [Token.documentStart, .documentEnd, .streamEnd].contains t

def markedRoot (fuel : Nat) (s : Source) : Option (Node × Source) :=
  if s.peek.any startsNoNode then some (.null, s) else node true false fuel s

def root? (ts : List Token) : Option (Option Node) :=
  let fuel := 4 * ts.length + 8
  let source := fun stems ts => Source.mk ts stems [] 0 []
  match ts.dropWhile (· == .documentEnd) with
  | [.streamEnd] => some none
  | ts =>
    let read? :=
      if ts.head?.any fun t => isDirective t || t == .documentStart then
        match directives ts false [] with
        | some (stems, .documentStart :: rest) => markedRoot fuel (source stems rest)
        | _ => none
      else node true false fuel (source [] ts)
    match read? with
    | some (n, s) =>
      if s.tokens.dropWhile (· == .documentEnd) = [.streamEnd] then some (some n) else none
    | none => none

end IsolatedSite.Yaml
