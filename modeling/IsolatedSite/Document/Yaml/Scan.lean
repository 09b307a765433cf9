import IsolatedSite.Document.Yaml.BlockScalar
import IsolatedSite.Document.Yaml.FlowScalar
import IsolatedSite.Document.Yaml.Property

namespace IsolatedSite.Yaml

namespace Lexer

def pushScalar (plain : Bool) (r : String × Lexer) : Lexer := r.2.push (.scalar plain r.1)

def forgetKeys (s : Lexer) : Option Lexer :=
  if s.keys.any fun k => k.required && k.possible then none
  else some { s with keys := s.keys.map fun k => { k with possible := false } }

def streamEnd (s : Lexer) : Option Lexer := do
  let s ← s.forgetKeys
  return { (s.closeBlocks (-1)).push .streamEnd with finished := true }

def leaveDocument (s : Lexer) : Option Lexer := do
  let s ← (s.closeBlocks (-1)).dropKey
  return s.allowKey false

def directive (s : Lexer) : Option Lexer := do
  let s ← s.leaveDocument
  let (t, c) ← directive? s.cursor
  return (s.move c).push t

def documentStart (s : Lexer) : Option Lexer := do
  let s ← s.leaveDocument
  return (s.move (s.cursor.step 3)).push .documentStart

def documentEnd (s : Lexer) : Option Lexer := do
  let s ← s.leaveDocument
  let c ← (s.cursor.step 3).restOfLine
  return (s.push .documentEnd).move c

def flowLimit : Nat := 255

def flowStart (s : Lexer) (t : Token) : Option Lexer := do
  let s := s.saveKey.indentOne
  guard (s.flow < flowLimit)
  let g ← (s.cursor.step 1).gap true
  let s := { s with
    flow := s.flow + 1
    keys := .none :: s.keys
    keyAllowed := true
    flowMapping := s.flowMapping || t == Token.flowMappingStart }
  return (s.move g.cursor).push t

/-- Ends a mapping of one pair that stands in a list without braces. -/
def endImplicit (s : Lexer) : Lexer :=
  if s.implicitMapping then
    { s with implicitMapping := false, flowMapping := false }.push .flowMappingEnd
  else s

def flowEnd (s : Lexer) (t : Token) : Option Lexer := do
  let s ← s.dropKey
  let s := if s.flow > 0 then { s with flow := s.flow - 1, keys := s.keys.tail } else s
  let s := (s.allowKey false).endImplicit
  let g ← (s.cursor.step 1).gap true
  let s := s.move g.cursor
  let s := if s.flow > 0 then { s with adjacentAt := s.cursor.mark.index } else s
  return s.push t

def flowEntry (s : Lexer) : Option Lexer := do
  let s ← s.dropKey
  let s := (s.allowKey true).endImplicit
  let g ← (s.cursor.step 1).gap true
  return (s.move g.cursor).push .flowEntry

/-- Whether an anchor or a tag begins the line before and this line begins like it. -/
def isStrayEntry (s : Lexer) : Bool :=
  s.property == some 0 && s.column == 0 && decide (s.indent > -1)

def blockEntry (s : Lexer) : Option Lexer := do
  guard (s.flow = 0 ∧ s.keyAllowed ∧ !s.isStrayEntry)
  let column := s.column
  let s := (s.move (s.cursor.step 1)).openBlock column none .blockSequenceStart
  let g ← s.cursor.gap true
  guard (!(g.tabs && g.cursor.char == '-' && isGap (g.cursor.charAt 1)))
  let g ← g.cursor.gap false
  let s := s.move g.cursor
  let s := if isBreak s.char || isFlowSign s.char then s.indentOne else s
  let s ← s.dropKey
  return (s.allowKey true).push .blockEntry

def skipLinesFrom : Nat → Lexer → Option Lexer
  | 0, _ => none
  | fuel + 1, s =>
    if s.char = ' ' then skipLinesFrom fuel (s.move (s.cursor.pass 1))
    else if isBreak s.char then skipLinesFrom fuel s.nextLine
    else if s.char = '#' then skipLinesFrom fuel (s.move s.cursor.skipComment)
    else some s

def keyMark (s : Lexer) : Option Lexer := do
  guard (s.flow > 0 ∨ s.keyAllowed)
  let outside := s.flow == 0
  let s :=
    if outside then s.openBlock s.column none .blockMappingStart else { s with flowMapping := true }
  let s ← s.dropKey
  let s := (s.allowKey outside).move (s.cursor.step 1)
  guard (s.char = ' ' ∨ isBreak s.char)
  let s ← skipLinesFrom (s.cursor.rest.length + 1) s
  guard (s.char ≠ '\t')
  return s.push .key

def valueOf (s : Lexer) (k : KeySpot) (line : Nat) : Option Lexer := do
  let s := s.insert k.number .key
  guard (!s.implicitMapping ∨ line ≤ k.mark.line)
  let s := if s.implicitMapping then s.insert k.number .flowMappingStart else s
  let s := (s.openBlock k.mark.column (some k.number) .blockMappingStart).indentOne
  return { s with
    keys := { k with possible := false } :: s.keys.tail
    keyAllowed := false }

def valueAlone (s : Lexer) (column : Nat) : Option Lexer := do
  guard (s.flow > 0 ∨ s.keyAllowed)
  let s := if s.implicitMapping then s.push .flowMappingStart else s
  let s := (s.openBlock column none .blockMappingStart).indentOne
  return s.allowKey (s.flow == 0)

def afterColon? (c : Cursor) : Option Cursor :=
  let c := c.step 1
  if c.char ≠ '\t' then some c
  else
    match c.gap true with
    | none => none
    | some g =>
      if !g.spaces && (g.cursor.char == '-' || isNameChar g.cursor.char) then none
      else some g.cursor

def valueMark (s : Lexer) : Option Lexer := do
  let here := s.cursor.mark
  let k := s.keys.headD .none
  let s := { s with implicitMapping := decide (s.flow > 0) && !s.flowMapping }
  let c ← afterColon? s.cursor
  let s := s.move c
  let s ← if k.possible then s.valueOf k here.line else s.valueAlone here.column
  return s.push .value

def anchorMark (s : Lexer) : Option Lexer := do
  let column := s.column
  let s := s.saveKey.allowKey false
  let (name, c) ← anchorName? s.cursor
  if s.char = '*' then return (s.move c).push (.alias name)
  return (s.move c).pushProperty column (.anchor name)

def tagMark (s : Lexer) : Option Lexer := do
  let column := s.column
  let s := s.saveKey.allowKey false
  let (t, c) ← s.tag?
  return (s.move c).pushProperty column t

def block (s : Lexer) : Option Lexer :=
  ((s.saveKey.allowKey true).blockScalar).map (pushScalar false)

def plain (s : Lexer) : Option Lexer :=
  ((s.saveKey.allowKey false).plainScalar).map (pushScalar true)

def quoted (s : Lexer) : Option Lexer := do
  let (text, s) ← (s.saveKey.allowKey false).quotedScalar
  let s ← s.skipToToken
  return pushScalar false (text, { s with adjacentAt := s.cursor.mark.index })

def word (s : Lexer) : Option Lexer :=
  let c := s.char
  let d := s.cursor.charAt 1
  if c = '[' then s.flowStart .flowSequenceStart
  else if c = '\x7b' then s.flowStart .flowMappingStart
  else if c = ']' then s.flowEnd .flowSequenceEnd
  else if c = '\x7d' then s.flowEnd .flowMappingEnd
  else if c = ',' then s.flowEntry
  else if c = '-' ∧ isGap d then s.blockEntry
  else if c = '?' ∧ isGap d then s.keyMark
  else if c = ':' ∧
      (isGap d ∨ (s.flow > 0 ∧ (isFlowSign d ∨ s.cursor.mark.index = s.adjacentAt))) then
    s.valueMark
  else if c = '*' ∨ c = '&' then s.anchorMark
  else if c = '!' then s.tagMark
  else if (c = '|' ∨ c = '>') ∧ s.flow = 0 then s.block
  else if c = '\'' ∨ c = '"' then s.quoted
  else if c = '%' ∨ c = '@' ∨ c = '\x60' then none
  else s.plain

def next (s : Lexer) : Option Lexer := do
  let s ← (← s.skipToToken).expireKeys
  let s := s.closeBlocks s.column
  if isEnd s.char then s.streamEnd
  else if s.column = 0 ∧ s.char = '%' then s.directive
  else if s.column = 0 ∧ s.cursor.standsAlone '-' then s.documentStart
  else if s.column = 0 ∧ s.cursor.standsAlone '.' then s.documentEnd
  else if (s.column : Int) < s.indent then none
  else s.word

def runAll : Nat → Lexer → Option (List Token)
  | 0, _ => none
  | fuel + 1, s => if s.finished then some s.out.reverse else s.next.bind (runAll fuel)

end Lexer

def tokens? (cs : List Char) : Option (List Token) := Lexer.runAll (cs.length + 2) (.ofText cs)

end IsolatedSite.Yaml
