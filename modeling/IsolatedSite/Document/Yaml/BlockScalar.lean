import IsolatedSite.Document.Yaml.Token

namespace IsolatedSite.Yaml

inductive Chomping where
  | strip
  | clip
  | keep
  deriving DecidableEq, Repr

structure BlockHead where
  chomping : Chomping
  /-- How far the lines stand to the right; nought if the first line decides. -/
  increment : Nat

def chompingOf? (c : Char) : Option Chomping :=
  if c = '+' then some .keep else if c = '-' then some .strip else none

def blockHead? (c : Cursor) : Option (BlockHead × Cursor) :=
  let digit := fun (c : Cursor) => c.char.toNat - '0'.toNat
  match chompingOf? c.char with
  | some chomping =>
    let c := c.step 1
    if !c.char.isDigit then some (⟨chomping, 0⟩, c)
    else if c.char = '0' then none
    else some (⟨chomping, digit c⟩, c.step 1)
  | none =>
    if !c.char.isDigit then some (⟨.clip, 0⟩, c)
    else if c.char = '0' then none
    else
      let increment := digit c
      let c := c.step 1
      match chompingOf? c.char with
      | some chomping => some (⟨chomping, increment⟩, c.step 1)
      | none => some (⟨.clip, increment⟩, c)

def skipSpaces (limit : Option Nat) : Nat → Cursor → Cursor
  | 0, c => c
  | fuel + 1, c =>
    if c.char = ' ' ∧ limit.all (c.column < ·) then skipSpaces limit fuel (c.pass 1) else c

/-- Passes empty lines and the indentation of the next line, which goes up to a column or is as wide
as can be. Gives the number of the empty lines and the widest indentation. -/
def skipIndentation (limit : Option Nat) : Nat → Nat → Nat → Cursor → Nat × Nat × Cursor
  | 0, lines, widest, c => (lines, widest, c)
  | fuel + 1, lines, widest, c =>
    let c := skipSpaces limit c.rest.length c
    let widest := max widest c.column
    if isBreak c.char then skipIndentation limit fuel (lines + 1) widest c.nextLine
    else (lines, widest, c)

structure BlockText where
  text : List Char := []
  broken : Bool := false
  emptyLines : Nat := 0
  /-- Whether the last line began with a blank. -/
  wasIndented : Bool := false

namespace BlockText

/-- Lines that begin with a blank are not folded. -/
def joinLines (literal : Bool) (b : BlockText) (indented : Bool) : List Char :=
  if !literal && b.broken && !b.wasIndented && !indented then
    (if b.emptyLines = 0 then [' '] else List.replicate b.emptyLines '\n') ++ b.text
  else List.replicate (b.emptyLines + if b.broken then 1 else 0) '\n' ++ b.text

def lines (literal : Bool) (indent : Nat) : Nat → BlockText → Cursor → BlockText × Cursor
  | 0, b, c => (b, c)
  | fuel + 1, b, c =>
    if c.column ≠ indent ∨ isEnd c.char ∨ (indent = 0 ∧ c.standsAlone '.') then (b, c)
    else
      let indented := isBlank c.char
      let line := c.run (!isBreakOrEnd ·)
      let text := line.reverse ++ b.joinLines literal indented
      let c := c.pass line.length
      if isEnd c.char then (⟨text, false, 0, indented⟩, c)
      else
        let c := c.nextLine
        let (emptyLines, _, c) := skipIndentation (some indent) (c.rest.length + 1) 0 0 c
        lines literal indent fuel ⟨text, true, emptyLines, indented⟩ c

def result (chomping : Chomping) (indent : Nat) (b : BlockText) (c : Cursor) : String :=
  let one := fun (b : Bool) => if b then ['\n'] else []
  let tail :=
    if chomping = .strip then []
    else one b.broken ++ one (isEnd c.char && decide (max indent 1 ≤ c.column))
  let kept := if chomping = .keep then List.replicate b.emptyLines '\n' else []
  String.ofList (b.text.reverse ++ tail ++ kept)

end BlockText

def emptyBlock (chomping : Chomping) (firstLine emptyLines : Nat) (c : Cursor) : String :=
  if chomping = .strip ∨ c.mark.line = firstLine then ""
  else if chomping = .keep ∧ emptyLines > 0 then String.ofList (List.replicate emptyLines '\n')
  else "\n"

def detectedIndent (outer : Int) (widest : Nat) : Nat :=
  let indent := max widest (outer + 1).toNat
  if outer > 0 then max indent 1 else indent

def Lexer.blockScalar (s : Lexer) : Option (String × Lexer) :=
  let literal := s.char == '|'
  let firstLine := s.cursor.mark.line
  let s := s.tighten
  match blockHead? (s.cursor.step 1) with
  | none => none
  | some (head, c) =>
    match c.restOfLine with
    | none => none
    | some c =>
      let c := c.nextLine
      if c.char = '\t' then none
      else
        let limit :=
          if head.increment = 0 then none
          else some ((max s.indent 0).toNat + head.increment)
        let (emptyLines, widest, c) := skipIndentation limit (c.rest.length + 1) 0 0 c
        let indent := limit.getD (detectedIndent s.indent widest)
        if isEnd c.char then some (emptyBlock head.chomping firstLine emptyLines c, s.move c)
        else if c.column < indent ∧ (c.column : Int) > s.indent then none
        else
          let (b, c) := BlockText.lines literal indent (c.rest.length + 1)
            ⟨[], false, emptyLines, false⟩ c
          some (b.result head.chomping indent c, s.move c)

end IsolatedSite.Yaml
