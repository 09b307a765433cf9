import IsolatedSite.Document.Yaml.Token
import IsolatedSite.Text.Hex

namespace IsolatedSite.Yaml

/-- A text in the making, the last character first, with the blanks and ends of lines that have been
met behind it. -/
structure Fold where
  text : List Char := []
  blanks : List Char := []
  broken : Bool := false
  emptyLines : Nat := 0

namespace Fold

def joinLines (f : Fold) : Fold :=
  let between :=
    if f.broken && f.emptyLines == 0 then [' '] else List.replicate f.emptyLines '\n'
  { f with text := between ++ f.text, broken := false, emptyLines := 0 }

def joinBlanks (f : Fold) : Fold := { f with text := f.blanks ++ f.text, blanks := [] }

def add (f : Fold) (cs : List Char) : Fold := { f with text := cs.reverse ++ f.text }

def breakLine (f : Fold) : Fold := { f with blanks := [], broken := true }

def result (f : Fold) : String := String.ofList f.text.reverse

end Fold

/-- How many characters of a line belong to a plain scalar. A colon ends it if a gap follows, and
within brackets so does any sign of them. -/
def plainLength (flow : Bool) : List Char → Nat
  | [] => 0
  | c :: rest =>
    let d := rest.headD '\x00'
    if isGap c || (c == ':' && (isGap d || (flow && isFlowSign d))) || (flow && isFlowSign c) then 0
    else plainLength flow rest + 1

/-- Blanks and ends of lines within a plain scalar. A tab may indent empty lines only. -/
def plainGap (indent : Int) : Nat → Fold → Cursor → Option (Fold × Cursor)
  | 0, _, _ => none
  | fuel + 1, f, c =>
    if isBlank c.char then
      if !c.fresh then plainGap indent fuel { f with blanks := c.char :: f.blanks } (c.pass 1)
      else if (c.column : Int) < indent ∧ c.char = '\t' then
        match c.restOfLine with
        | some c => plainGap indent fuel f c
        | none => none
      else plainGap indent fuel f (c.pass 1)
    else if isBreak c.char then
      if c.fresh then plainGap indent fuel { f with emptyLines := f.emptyLines + 1 } c.nextLine
      else plainGap indent fuel f.breakLine c.nextLine
    else some (f, c)

def plainLines (flow : Bool) (indent : Int) : Nat → Fold → Cursor → Option (Fold × Cursor)
  | 0, _, _ => none
  | fuel + 1, f, c =>
    if c.atDocumentMark || c.char == '#' then some (f, c)
    else if flow && c.char == '-' && isFlowSign (c.charAt 1) then none
    else
      let n := plainLength flow c.rest
      let f' := if n = 0 then f else (if c.fresh then f.joinLines else f.joinBlanks).add (c.rest.take n)
      let c' := c.step n
      if isBlank c'.char || isBreak c'.char then
        match plainGap indent (c'.rest.length + 1) f' c' with
        | none => none
        | some (f, c) =>
          if !flow && decide ((c.column : Int) < indent) then some (f, c)
          else plainLines flow indent fuel f c
      else some (f', c')

/-- A plain scalar goes on as long as its lines stand to the right of the block. -/
def Lexer.plainScalar (s : Lexer) : Option (String × Lexer) :=
  let s := s.tighten
  let indent := s.indent + 1
  let flow := decide (s.flow > 0)
  if flow && decide ((s.column : Int) < indent) then none
  else
    match plainLines flow indent (s.cursor.rest.length + 1) {} s.cursor with
    | none => none
    | some (f, c) =>
      if f.text.isEmpty then none
      else
        let s := s.move c
        some (f.result, if c.fresh then s.allowKey true else s)

def plainEscape? (c : Char) : Option Char :=
  match c with
  | '0' => some (Char.ofNat 0)
  | 'a' => some (Char.ofNat 7)
  | 'b' => some (Char.ofNat 8)
  | 't' => some '\t'
  | '\t' => some '\t'
  | 'n' => some '\n'
  | 'v' => some (Char.ofNat 11)
  | 'f' => some (Char.ofNat 12)
  | 'r' => some '\r'
  | 'e' => some (Char.ofNat 27)
  | ' ' => some ' '
  | '"' => some '"'
  | '/' => some '/'
  | '\\' => some '\\'
  | 'N' => some (Char.ofNat 0x85)
  | '_' => some (Char.ofNat 0xA0)
  | 'L' => some (Char.ofNat 0x2028)
  | 'P' => some (Char.ofNat 0x2029)
  | _ => none

def codeLength? (c : Char) : Option Nat :=
  match c with
  | 'x' => some 2
  | 'u' => some 4
  | 'U' => some 8
  | _ => none

def escape? (c : Cursor) : Option (Char × Nat) :=
  match codeLength? (c.charAt 1) with
  | some n => (Text.readCode n (c.rest.drop 2)).map fun r => (r.1, n + 2)
  | none => (plainEscape? (c.charAt 1)).map fun d => (d, 2)

/-- The characters of a quoted scalar up to a gap or the closing quote. The flag tells that an
escaped end of a line has been met. -/
def quotedRun (quote : Char) : Nat → Fold → Cursor → Option (Fold × Bool × Cursor)
  | 0, _, _ => none
  | fuel + 1, f, c =>
    let d := c.char
    if isGap d then some (f, false, c)
    else if d = '\'' ∧ quote = '\'' ∧ c.charAt 1 = '\'' then
      quotedRun quote fuel (f.add ['\'']) (c.step 2)
    else if d = quote then some (f, false, c)
    else if d = '\\' ∧ quote = '"' then
      if isBreak (c.charAt 1) then some (f, true, (c.step 1).nextLine)
      else
        match escape? c with
        | some (e, n) => quotedRun quote fuel (f.add [e]) (c.step n)
        | none => none
    else quotedRun quote fuel (f.add [d]) (c.step 1)

def quotedGap (indent : Int) : Nat → Bool → Fold → Cursor → Option (Fold × Cursor)
  | 0, _, _, _ => none
  | fuel + 1, ended, f, c =>
    if isBlank c.char then
      if !ended then quotedGap indent fuel ended { f with blanks := c.char :: f.blanks } (c.pass 1)
      else if c.char = '\t' ∧ (c.column : Int) < indent then none
      else quotedGap indent fuel ended f (c.pass 1)
    else if isBreak c.char then
      if ended then
        quotedGap indent fuel true { f with emptyLines := f.emptyLines + 1 } c.nextLine
      else quotedGap indent fuel true f.breakLine c.nextLine
    else some (if ended then f.joinLines else f.joinBlanks, c)

def quotedLines (quote : Char) (indent : Int) : Nat → Fold → Cursor → Option (Fold × Cursor)
  | 0, _, _ => none
  | fuel + 1, f, c =>
    if c.atDocumentMark || isEnd c.char || decide ((c.column : Int) < indent) then none
    else
      match quotedRun quote (c.rest.length + 1) f c with
      | none => none
      | some (f, ended, c) =>
        if c.char = quote then some (f, c)
        else
          match quotedGap indent (c.rest.length + 1) ended f c with
          | none => none
          | some (f, c) => quotedLines quote indent fuel f c

def Lexer.mayFollowQuote (s : Lexer) (firstLine : Nat) : Bool :=
  let c := s.char
  isBreakOrEnd c ||
    if s.flow > 0 then [',', '\x7d', ']', ':'].contains c
    else c == ':' && firstLine == s.cursor.mark.line

def Lexer.quotedScalar (s : Lexer) : Option (String × Lexer) :=
  match quotedLines s.char s.indent (s.cursor.rest.length + 1) {} (s.cursor.step 1) with
  | none => none
  | some (f, c) =>
    match (c.step 1).gap true with
    | none => none
    | some g =>
      let s' := s.move g.cursor
      if s'.mayFollowQuote s.cursor.mark.line then some (f.result, s') else none

end IsolatedSite.Yaml
