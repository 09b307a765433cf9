namespace IsolatedSite.Text

/-- Where a reader of such a text is: among characters to show, behind an escape character, behind
the marks that may follow it, in a control sequence, or in a string, which a bell may or may not
end. -/
inductive TerminalPlace where
  | plain
  | escape
  | marked
  | sequence
  | string (bell : Bool)
  deriving DecidableEq, Repr

def isLayout (c : Char) : Bool := c == '\t' || c == '\n' || c == '\x0c' || c == '\r'

def isControl (c : Char) : Bool := c.toNat < 0x20 || c.toNat == 0x7F

namespace TerminalPlace

def shows (p : TerminalPlace) (c : Char) : Bool :=
  match p with
  | .plain => isLayout c || !isControl c
  | .string _ => false
  | _ => isLayout c

def afterEscape (c : Char) : TerminalPlace :=
  if c = '[' then .sequence
  else if c = ']' then .string true
  else if ['P', 'X', '^', '_'].contains c then .string false
  else if isControl c then .escape
  else if c.toNat < 0x30 then .marked
  else .plain

def next (p : TerminalPlace) (c : Char) : TerminalPlace :=
  if c = '\x1b' then .escape
  else if c = '\x18' ∨ c = '\x1a' then .plain
  else
    match p with
    | .plain => .plain
    | .escape => afterEscape c
    | .marked => if c.toNat < 0x30 || isControl c then .marked else .plain
    | .sequence => if c.toNat < 0x40 || isControl c then .sequence else .plain
    | .string bell => if bell && c == '\x07' then .plain else .string bell

end TerminalPlace

def stretchesFrom : TerminalPlace → List Char → List (Bool × List Char)
  | _, [] => []
  | p, c :: cs =>
    let shown := p.shows c
    match stretchesFrom (if shown then .plain else p.next c) cs with
    | [] => [(shown, [c])]
    | (s, part) :: parts =>
      if s = shown then (s, c :: part) :: parts else (shown, [c]) :: (s, part) :: parts

def stretches (cs : List Char) : List (Bool × List Char) := stretchesFrom .plain cs

def shown (s : String) : String :=
  String.ofList (((stretches s.toList).filter (·.1)).flatMap (·.2))

end IsolatedSite.Text
