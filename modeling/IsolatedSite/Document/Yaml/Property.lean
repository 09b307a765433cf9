import IsolatedSite.Document.Yaml.Token
import IsolatedSite.Text.Hex

namespace IsolatedSite.Yaml

def anchorName? (c : Cursor) : Option (String × Cursor) :=
  let c := c.step 1
  let name := c.run isAnchorChar
  if name.isEmpty then none else some (String.ofList name, c.step name.length)

def octetCount? (octet : Nat) : Option Nat :=
  if octet < 0x80 then some 1
  else if 0xC0 ≤ octet ∧ octet < 0xE0 then some 2
  else if 0xE0 ≤ octet ∧ octet < 0xF0 then some 3
  else if 0xF0 ≤ octet ∧ octet < 0xF8 then some 4
  else none

def escapedOctet? (c : Cursor) : Option Nat :=
  if c.char = '%' ∧ (c.rest.drop 1).length ≥ 2 then Text.numberIn? 16 ((c.rest.drop 1).take 2)
  else none

def furtherOctets? : Nat → Nat → Cursor → Option (Nat × Cursor)
  | 0, code, c => some (code, c)
  | count + 1, code, c =>
    match escapedOctet? c with
    | some octet =>
      if 0x80 ≤ octet ∧ octet < 0xC0 then furtherOctets? count (code * 256 + octet) (c.step 3)
      else none
    | none => none

def escapedChar? (c : Cursor) : Option (Char × Cursor) :=
  match escapedOctet? c with
  | none => none
  | some octet =>
    match octetCount? octet with
    | none => none
    | some count =>
      match furtherOctets? (count - 1) octet (c.step 3) with
      | some (code, c) => (Text.charOf? code).map fun d => (d, c)
      | none => none

def uriChars (inside : Char → Bool) : Nat → Cursor → Option (List Char × Cursor)
  | 0, _ => none
  | fuel + 1, c =>
    if !inside c.char then some ([], c)
    else if c.char = '%' then
      match escapedChar? c with
      | some (d, c) => (uriChars inside fuel c).map fun r => (d :: r.1, r.2)
      | none => none
    else (uriChars inside fuel (c.step 1)).map fun r => (c.char :: r.1, r.2)

def readUri (inside : Char → Bool) (c : Cursor) : Option (List Char × Cursor) :=
  uriChars inside (c.rest.length + 1) c

def tagHandle? (c : Cursor) : Option (List Char × Cursor) :=
  if c.char ≠ '!' then none
  else
    let c := c.step 1
    let name := c.run isNameChar
    let c := c.step name.length
    if c.char = '!' then some ('!' :: name ++ ['!'], c.step 1) else some ('!' :: name, c)

def isWholeHandle (handle : List Char) : Bool :=
  handle.length ≥ 2 && handle.getLast? == some '!'

def verbatimTag? (c : Cursor) : Option (Token × Cursor) :=
  match readUri isUriChar (c.step 2) with
  | some (uri, c) => if c.char = '>' then some (.tag "" (String.ofList uri), c.step 1) else none
  | none => none

/-- A tag by its handle and suffix. A name that is no handle belongs to the suffix, and a mark alone
is a suffix without a handle. -/
def shortTag? (c : Cursor) : Option (Token × Cursor) :=
  match tagHandle? c with
  | none => none
  | some (handle, c) =>
    match readUri isTagChar c with
    | none => none
    | some (suffix, c) =>
      if isWholeHandle handle then
        if suffix.isEmpty then none else some (.tag (String.ofList handle) (String.ofList suffix), c)
      else
        let suffix := handle.drop 1 ++ suffix
        if suffix.isEmpty then some (.tag "" "!", c) else some (.tag "!" (String.ofList suffix), c)

def Lexer.tag? (s : Lexer) : Option (Token × Cursor) :=
  match if s.cursor.charAt 1 = '<' then verbatimTag? s.cursor else shortTag? s.cursor with
  | some (t, c) =>
    if isGap c.char || (decide (s.flow > 0) && isFlowSign c.char) then some (t, c) else none
  | none => none

def skipNumber? (c : Cursor) : Option Cursor :=
  let n := (c.run Char.isDigit).length
  if 0 < n ∧ n ≤ 9 then some (c.step n) else none

def version? (c : Cursor) : Option (Token × Cursor) :=
  match skipNumber? c.skipBlanks with
  | some c => if c.char = '.' then (skipNumber? (c.step 1)).map fun c => (.version, c) else none
  | none => none

def stem? (c : Cursor) : Option (List Char × Cursor) :=
  if c.char = '!' then (readUri isUriChar (c.step 1)).map fun r => ('!' :: r.1, r.2)
  else if isTagChar c.char then readUri isUriChar c
  else none

def tagStem? (c : Cursor) : Option (Token × Cursor) :=
  match tagHandle? c.skipBlanks with
  | none => none
  | some (handle, c) =>
    if handle ≠ ['!'] ∧ !isWholeHandle handle then none
    else
      match stem? c.skipBlanks with
      | some (stem, c) =>
        if isGap c.char then some (.tagStem (String.ofList handle) (String.ofList stem), c) else none
      | none => none

def directive? (c : Cursor) : Option (Token × Cursor) :=
  let c := c.step 1
  let name := c.run isNameChar
  let c := c.step name.length
  if name.isEmpty ∨ !isGap c.char then none
  else
    let read? :=
      if name = "YAML".toList then version? c
      else if name = "TAG".toList then tagStem? c
      else some (.tagStem "" "", c.skipComment)
    match read? with
    | none => none
    | some (t, c) => c.restOfLine.map fun c => (t, c.nextLine)

end IsolatedSite.Yaml
