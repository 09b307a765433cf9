namespace IsolatedSite.Yaml

def isEnd (c : Char) : Bool := c == '\x00'

def isBreak (c : Char) : Bool := c == '\n' || c == '\r'

def isBlank (c : Char) : Bool := c == ' ' || c == '\t'

def isBreakOrEnd (c : Char) : Bool := isBreak c || isEnd c

def isGap (c : Char) : Bool := isBlank c || isBreakOrEnd c

def isFlowSign (c : Char) : Bool := [',', '[', ']', '\x7b', '\x7d'].contains c

def isNameChar (c : Char) : Bool := c.isAlphanum || c == '_' || c == '-'

def isUriChar (c : Char) : Bool := isNameChar c || "#;/?:@&=+$,.!~*'()[]%".toList.contains c

def isTagChar (c : Char) : Bool := isUriChar c && !isFlowSign c && c != '!'

def isAnchorChar (c : Char) : Bool := !isGap c && c.toNat != 0xFEFF && !isFlowSign c

structure Mark where
  index : Nat
  line : Nat
  column : Nat
  deriving DecidableEq, Repr

structure Cursor where
  rest : List Char
  mark : Mark
  fresh : Bool

namespace Cursor

def ofText (cs : List Char) : Cursor := ⟨cs, ⟨0, 1, 0⟩, true⟩

def column (c : Cursor) : Nat := c.mark.column

def charAt (c : Cursor) (n : Nat) : Char := (c.rest.drop n).headD '\x00'

def char (c : Cursor) : Char := c.charAt 0

def pass (c : Cursor) (n : Nat) : Cursor :=
  ⟨c.rest.drop n, ⟨c.mark.index + n, c.mark.line, c.mark.column + n⟩, c.fresh⟩

def step (c : Cursor) (n : Nat) : Cursor :=
  if n = 0 then c else { c.pass n with fresh := false }

def nextLine (c : Cursor) : Cursor :=
  let skip (n : Nat) : Cursor := ⟨c.rest.drop n, ⟨c.mark.index + n, c.mark.line + 1, 0⟩, true⟩
  if c.char = '\r' ∧ c.charAt 1 = '\n' then skip 2
  else if isBreak c.char then skip 1
  else c

def run (c : Cursor) (inside : Char → Bool) : List Char := c.rest.takeWhile inside

def skipRun (c : Cursor) (inside : Char → Bool) : Cursor := c.step (c.run inside).length

def skipBlanks (c : Cursor) : Cursor := c.pass (c.run isBlank).length

def skipComment (c : Cursor) : Cursor := c.skipRun (!isBreakOrEnd ·)

def standsAlone (c : Cursor) (sign : Char) : Bool :=
  c.rest.take 3 == [sign, sign, sign] && isGap (c.charAt 3)

def atDocumentMark (c : Cursor) : Bool :=
  c.column == 0 && (c.standsAlone '-' || c.standsAlone '.')

structure Gap where
  tabs : Bool
  spaces : Bool
  cursor : Cursor

def widenGap (tabs : Bool) : Nat → Gap → Option Gap
  | 0, _ => none
  | fuel + 1, g =>
    if g.cursor.char = ' ' then widenGap tabs fuel ⟨g.tabs, true, g.cursor.pass 1⟩
    else if g.cursor.char = '\t' ∧ tabs then widenGap tabs fuel ⟨true, g.spaces, g.cursor.pass 1⟩
    else if g.cursor.char = '#' then
      if g.tabs || g.spaces then some { g with cursor := g.cursor.skipComment } else none
    else some g

/-- Passes the blanks of a line and a comment behind them. A comment without blanks before it is
refused. -/
def gap (c : Cursor) (tabs : Bool) : Option Gap :=
  widenGap tabs (c.rest.length + 1) ⟨false, false, c⟩

def restOfLine (c : Cursor) : Option Cursor :=
  match c.gap true with
  | some g => if isBreakOrEnd g.cursor.char then some g.cursor else none
  | none => none

end Cursor

end IsolatedSite.Yaml
