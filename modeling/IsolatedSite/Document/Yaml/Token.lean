import IsolatedSite.Document.Yaml.Cursor

namespace IsolatedSite.Yaml

inductive Token where
  | version
  | tagStem (handle stem : String)
  | documentStart
  | documentEnd
  | streamEnd
  | blockSequenceStart
  | blockMappingStart
  | blockEnd
  | blockEntry
  | key
  | value
  | flowSequenceStart
  | flowSequenceEnd
  | flowMappingStart
  | flowMappingEnd
  | flowEntry
  | alias (name : String)
  | anchor (name : String)
  | tag (handle suffix : String)
  | scalar (plain : Bool) (text : String)
  deriving DecidableEq, Repr

/-- An indentation that another one is inside of. A loose one belongs to no block of its own. -/
structure Indent where
  column : Int
  loose : Bool

structure KeySpot where
  possible : Bool
  required : Bool
  number : Nat
  mark : Mark

def KeySpot.none : KeySpot := ⟨false, false, 0, ⟨0, 0, 0⟩⟩

structure Lexer where
  cursor : Cursor
  /-- The tokens so far, the last one first. -/
  out : List Token
  /-- The column of the last token if it is an anchor or a tag. -/
  property : Option Nat
  /-- One spot for each open bracket and one for the outside, the innermost first. -/
  keys : List KeySpot
  keyAllowed : Bool
  indent : Int
  indents : List Indent
  flow : Nat
  /-- The index at which a colon needs no blank after it. -/
  adjacentAt : Nat
  flowMapping : Bool
  implicitMapping : Bool
  finished : Bool

namespace Lexer

def ofText (cs : List Char) : Lexer :=
  { cursor := .ofText cs
    out := []
    property := none
    keys := [.none]
    keyAllowed := true
    indent := -1
    indents := []
    flow := 0
    adjacentAt := 0
    flowMapping := false
    implicitMapping := false
    finished := false }

def column (s : Lexer) : Nat := s.cursor.column

def char (s : Lexer) : Char := s.cursor.char

def move (s : Lexer) (c : Cursor) : Lexer := { s with cursor := c }

def push (s : Lexer) (t : Token) : Lexer := { s with out := t :: s.out, property := none }

def pushProperty (s : Lexer) (column : Nat) (t : Token) : Lexer :=
  { s with out := t :: s.out, property := some column }

def insert (s : Lexer) (number : Nat) (t : Token) : Lexer :=
  { s with out := s.out.insertIdx (s.out.length - number) t }

def allowKey (s : Lexer) (allowed : Bool) : Lexer := { s with keyAllowed := allowed }

/-- Notes that a key may begin here. One that begins a line of a block has to be one. -/
def saveKey (s : Lexer) : Lexer :=
  if s.keyAllowed then
    let required := s.flow == 0 && s.indent == s.column && s.indents.head?.any (!·.loose)
    { s with keys := ⟨true, required, s.out.length, s.cursor.mark⟩ :: s.keys.tail }
  else s

def dropKey (s : Lexer) : Option Lexer :=
  match s.keys with
  | [] => some s
  | k :: ks =>
    if k.possible && k.required then none
    else some { s with keys := { k with possible := false } :: ks }

def keyReach : Nat := 1024

/-- Outside of brackets a key and its colon stand on one line, not too far from each other. -/
def expireKeys (s : Lexer) : Option Lexer :=
  let here := s.cursor.mark
  let expired := fun (k : KeySpot) =>
    k.possible && s.flow == 0 &&
      (decide (k.mark.line < here.line) || decide (k.mark.index + keyReach < here.index))
  if s.keys.any fun k => expired k && k.required then none
  else
    some { s with keys := s.keys.map fun k => if expired k then { k with possible := false } else k }

def openBlock (s : Lexer) (column : Int) (number : Option Nat) (t : Token) : Lexer :=
  if s.flow > 0 then s
  else
    let s :=
      match s.indents with
      | i :: outer =>
        if s.indent ≤ column ∧ i.loose then { s with indent := i.column, indents := outer } else s
      | [] => s
    if s.indent < column then
      let s := { s with indents := ⟨s.indent, false⟩ :: s.indents, indent := column }
      match number with
      | some n => s.insert n t
      | none => s.push t
    else s

def closeFrom (column : Int) : List Indent → Lexer → Lexer
  | [], s => s
  | i :: outer, s =>
    if s.indent > column then
      let s := { s with indent := i.column, indents := outer }
      closeFrom column outer (if i.loose then s else s.push .blockEnd)
    else s

def closeBlocks (s : Lexer) (column : Int) : Lexer :=
  if s.flow > 0 then s else closeFrom column s.indents s

def indentOne (s : Lexer) : Lexer :=
  if s.flow = 0 ∧ s.indents.head?.any (!·.loose) then
    { s with indents := ⟨s.indent, true⟩ :: s.indents, indent := s.indent + 1 }
  else s

def tightenFrom : List Indent → Lexer → Lexer
  | [], s => s
  | i :: outer, s =>
    if i.loose then tightenFrom outer { s with indent := i.column, indents := outer } else s

def tighten (s : Lexer) : Lexer := tightenFrom s.indents s

def nextLine (s : Lexer) : Lexer :=
  let s := s.move s.cursor.nextLine
  if s.flow = 0 then s.allowKey true else s

def skipFrom : Nat → Lexer → Option Lexer
  | 0, _ => none
  | fuel + 1, s =>
    let c := s.char
    if c = '\t' ∧ !s.indents.isEmpty ∧ s.cursor.fresh ∧ (s.column : Int) < s.indent then
      match s.cursor.restOfLine with
      | some c => skipFrom fuel (s.move c)
      | none => none
    else if isBlank c then skipFrom fuel (s.move (s.cursor.pass 1))
    else if isBreak c then skipFrom fuel s.nextLine
    else if c = '#' then skipFrom fuel (s.move s.cursor.skipComment)
    else some s

def skipToToken (s : Lexer) : Option Lexer := skipFrom (s.cursor.rest.length + 1) s

end Lexer

end IsolatedSite.Yaml
