import IsolatedSite.Document.Datum
import IsolatedSite.Document.Toml.DateTime
import IsolatedSite.Text.Hex
import IsolatedSite.Text.Split

namespace IsolatedSite.Toml

abbrev Rest := List Char

/-- How a table came about: through the header of a table inside it, through a dotted key, or
through its own header. -/
inductive TableKind where
  | implied
  | dotted
  | stated
  deriving DecidableEq

inductive Item where
  | value (datum : Datum)
  | table (kind : TableKind) (entries : List (String × Item))
  | tables (elements : List (List (String × Item)))

abbrev Entries := List (String × Item)

mutual

def Item.toDatum : Item → Datum
  | .value datum => datum
  | .table _ entries => .table (entriesToData entries)
  | .tables elements => .list (elementsToData elements)

def entriesToData : List (String × Item) → List (String × Datum)
  | [] => []
  | (key, item) :: rest => (key, item.toDatum) :: entriesToData rest

def elementsToData : List (List (String × Item)) → List Datum
  | [] => []
  | element :: rest => .table (entriesToData element) :: elementsToData rest

end

/-- Changes the table that a list of keys leads to, making tables on the way. Of an array of tables
the last element is meant. A dotted key does not lead through a table that has a header. -/
def within (viaDots : Bool) (change : TableKind → Entries → Option Entries) :
    List String → TableKind → Entries → Option Entries
  | [], kind, entries => change kind entries
  | key :: keys, _, entries =>
    match entries.lookup key with
    | none =>
      let kind := if viaDots then TableKind.dotted else .implied
      (within viaDots change keys kind []).map fun inner => entries ++ [(key, .table kind inner)]
    | some (.value _) => none
    | some (.table kind inner) =>
      if viaDots && kind == .stated then none
      else
        (within viaDots change keys kind inner).map fun inner =>
          Datum.put key (.table kind inner) entries
    | some (.tables elements) =>
      match elements.getLast? with
      | none => none
      | some inner =>
        (within viaDots change keys .stated inner).map fun inner =>
          Datum.put key (.tables (elements.dropLast ++ [inner])) entries

def splitKey (path : List String) : Option (List String × String) :=
  path.getLast?.map fun key => (path.dropLast, key)

def setKey (path : List String) (value : Datum) (entries : Entries) : Option Entries :=
  match splitKey path with
  | none => none
  | some (above, key) =>
    within true (fun kind entries =>
      if above.isEmpty == (kind == .dotted) then none
      else if (entries.lookup key).isSome then none
      else some (entries ++ [(key, .value value)])) above .stated entries

def stateTable (path : List String) (root : Entries) : Option Entries :=
  match splitKey path with
  | none => none
  | some (above, key) =>
    within false (fun _ entries =>
      match entries.lookup key with
      | none => some (entries ++ [(key, .table .stated [])])
      | some (.table .implied inner) => some (Datum.put key (.table .stated inner) entries)
      | _ => none) above .stated root

def stateElement (path : List String) (root : Entries) : Option Entries :=
  match splitKey path with
  | none => none
  | some (above, key) =>
    within false (fun _ entries =>
      match entries.lookup key with
      | none => some (entries ++ [(key, .tables [[]])])
      | some (.tables elements) => some (Datum.put key (.tables (elements ++ [[]])) entries)
      | _ => none) above .stated root

def isBareKey (c : Char) : Bool := c.isAlphanum || c == '_' || c == '-'

def isBlank (c : Char) : Bool := c == ' ' || c == '\t'

def skipBlanks (cs : Rest) : Rest := cs.dropWhile isBlank

def isPrintable (c : Char) : Bool := c == '\t' || (0x20 ≤ c.toNat && c.toNat != 0x7F)

def newline? : Rest → Option Rest
  | '\n' :: rest => some rest
  | '\r' :: '\n' :: rest => some rest
  | _ => none

def endOfLine? (cs : Rest) : Option Rest :=
  match skipBlanks cs with
  | [] => some []
  | '#' :: rest =>
    match rest.dropWhile isPrintable with
    | [] => some []
    | rest => newline? rest
  | rest => newline? rest

def skipLines : Nat → Rest → Rest
  | 0, cs => cs
  | fuel + 1, cs =>
    match endOfLine? cs with
    | some [] => []
    | some rest => skipLines fuel rest
    | none => skipBlanks cs

def readEscape : Rest → Option (Char × Rest)
  | 'b' :: rest => some (Char.ofNat 8, rest)
  | 't' :: rest => some ('\t', rest)
  | 'n' :: rest => some ('\n', rest)
  | 'f' :: rest => some (Char.ofNat 12, rest)
  | 'r' :: rest => some ('\r', rest)
  | '"' :: rest => some ('"', rest)
  | '\\' :: rest => some ('\\', rest)
  | 'u' :: rest => Text.readCode 4 rest
  | 'U' :: rest => Text.readCode 8 rest
  | _ => none

def readBasic : Nat → Rest → Option (List Char × Rest)
  | 0, _ => none
  | fuel + 1, cs =>
    match cs with
    | '"' :: rest => some ([], rest)
    | '\\' :: rest =>
      match readEscape rest with
      | none => none
      | some (c, rest) => (readBasic fuel rest).map fun r => (c :: r.1, r.2)
    | c :: rest =>
      if isPrintable c then (readBasic fuel rest).map fun r => (c :: r.1, r.2) else none
    | [] => none

def readLiteral (cs : Rest) : Option (List Char × Rest) :=
  match splitFirst '\'' cs with
  | (inside, some rest) => if inside.all isPrintable then some (inside, rest) else none
  | _ => none

/-- The quotes that end a text of several lines: up to two more than three belong to the text. -/
def closing? (quote : Char) (cs : Rest) : Option (List Char × Rest) :=
  let count := (cs.takeWhile (· == quote)).length
  if count < 3 then none
  else
    let kept := min (count - 3) 2
    some (List.replicate kept quote, cs.drop (kept + 3))

def skipEmptyLines : Nat → Rest → Rest
  | 0, cs => cs
  | fuel + 1, cs =>
    match newline? (skipBlanks cs) with
    | some rest => skipEmptyLines fuel rest
    | none => skipBlanks cs

def continued? (cs : Rest) : Option Rest :=
  (newline? (skipBlanks cs)).map fun rest => skipEmptyLines rest.length rest

def readBasicLines : Nat → Rest → Option (List Char × Rest)
  | 0, _ => none
  | fuel + 1, cs =>
    match closing? '"' cs with
    | some r => some r
    | none =>
      match cs with
      | [] => none
      | '\\' :: rest =>
        match continued? rest with
        | some rest => readBasicLines fuel rest
        | none =>
          match readEscape rest with
          | none => none
          | some (c, rest) => (readBasicLines fuel rest).map fun r => (c :: r.1, r.2)
      | c :: rest =>
        if isPrintable c then (readBasicLines fuel rest).map fun r => (c :: r.1, r.2)
        else
          match newline? (c :: rest) with
          | some rest => (readBasicLines fuel rest).map fun r => ('\n' :: r.1, r.2)
          | none => none

def readLiteralLines : Nat → Rest → Option (List Char × Rest)
  | 0, _ => none
  | fuel + 1, cs =>
    match closing? '\'' cs with
    | some r => some r
    | none =>
      match cs with
      | [] => none
      | c :: rest =>
        if isPrintable c then (readLiteralLines fuel rest).map fun r => (c :: r.1, r.2)
        else
          match newline? (c :: rest) with
          | some rest => (readLiteralLines fuel rest).map fun r => ('\n' :: r.1, r.2)
          | none => none

def afterOpening (cs : Rest) : Rest := (newline? cs).getD cs

def readKeyPart (cs : Rest) : Option (String × Rest) :=
  match cs with
  | '"' :: rest => (readBasic (rest.length + 1) rest).map fun r => (String.ofList r.1, r.2)
  | '\'' :: rest => (readLiteral rest).map fun r => (String.ofList r.1, r.2)
  | cs =>
    let name := cs.takeWhile isBareKey
    if name.isEmpty then none else some (String.ofList name, cs.drop name.length)

/-- Values nest less deep than this, and keys have fewer parts. -/
def depthLimit : Nat := 80

def readParts : Nat → Rest → Option (List String × Rest)
  | 0, _ => none
  | parts + 1, cs =>
    match readKeyPart (skipBlanks cs) with
    | none => none
    | some (part, rest) =>
      match skipBlanks rest with
      | '.' :: rest => (readParts parts rest).map fun r => (part :: r.1, r.2)
      | rest => some ([part], rest)

def readKey (cs : Rest) : Option (List String × Rest) := readParts (depthLimit - 1) cs

def digitsOf? (base : Nat) (cs : List Char) : Option (List Char) :=
  let parts := splitOn '_' cs
  let isOwn := fun c => (Text.hexValue? c).any (· < base)
  if parts.all (fun p => !p.isEmpty && p.all isOwn) then some parts.flatten else none

def numberIn? (base : Nat) (cs : List Char) : Option Nat :=
  (digitsOf? base cs).bind (Text.numberIn? base)

def wholeDigits? (cs : List Char) : Option (List Char) :=
  (digitsOf? 10 cs).bind fun ds =>
    if ds.length > 1 ∧ ds.head? = some '0' then none else some ds

def splitExponent (cs : List Char) : List Char × Option (List Char) :=
  match splitFirst 'e' (cs.map Char.toLower) with
  | (front, some back) => (front, some back)
  | (front, none) => (front, none)

def signedDigits? (cs : List Char) : Option Int :=
  match cs with
  | '-' :: ds => (digitsOf? 10 ds).map fun ds => -(Decimal.value ds : Int)
  | '+' :: ds => (digitsOf? 10 ds).map fun ds => (Decimal.value ds : Int)
  | ds => (digitsOf? 10 ds).map fun ds => (Decimal.value ds : Int)

/-- A number with a fraction or an exponent. One that is too large is refused, one that is too far
below zero is infinite. -/
def realOf? (negative : Bool) (cs : List Char) : Option Datum :=
  let (front, exponent) := splitExponent cs
  let (whole, fraction) := splitFirst '.' front
  match wholeDigits? whole, fraction.mapM (digitsOf? 10), exponent.mapM signedDigits? with
  | some whole, some fraction, some exponent =>
    let fraction := fraction.getD []
    let x := Binary64.ofDecimal negative (Decimal.value (whole ++ fraction))
      (exponent.getD 0 - fraction.length)
    if x = .infinite false then none else some (.real x)
  | _, _, _ => none

def unsignedNumber? (negative : Bool) (cs : List Char) : Option Datum :=
  if cs = "inf".toList then some (.real (.infinite negative))
  else if cs = "nan".toList then some (.real .notANumber)
  else if cs.any (fun c => c == '.' || c == 'e' || c == 'E') then realOf? negative cs
  else
    (wholeDigits? cs).bind fun ds =>
      Datum.ofInt? (if negative then -(Decimal.value ds : Int) else Decimal.value ds)

def number? (cs : List Char) : Option Datum :=
  match cs with
  | '0' :: 'x' :: ds => (numberIn? 16 ds).bind fun n => Datum.ofInt? n
  | '0' :: 'o' :: ds => (numberIn? 8 ds).bind fun n => Datum.ofInt? n
  | '0' :: 'b' :: ds => (numberIn? 2 ds).bind fun n => Datum.ofInt? n
  | '-' :: ds => unsignedNumber? true ds
  | '+' :: ds => unsignedNumber? false ds
  | ds => unsignedNumber? false ds

def isScalarChar (c : Char) : Bool :=
  c.isAlphanum || c == '_' || c == '-' || c == '+' || c == '.' || c == ':'

/-- A date and a time may have one blank between them. -/
def scalarChars (cs : Rest) : List Char × Rest :=
  let word := cs.takeWhile isScalarChar
  let rest := cs.drop word.length
  match rest with
  | ' ' :: d :: more =>
    if (date? word).isSome && d.isDigit then
      let time := (d :: more).takeWhile isScalarChar
      (word ++ ' ' :: time, (d :: more).drop time.length)
    else (word, rest)
  | _ => (word, rest)

def readScalar (cs : Rest) : Option (Datum × Rest) :=
  let (word, rest) := scalarChars cs
  if word = "true".toList then some (.bool true, rest)
  else if word = "false".toList then some (.bool false, rest)
  else ((number? word).or ((dateTime? word).map .text)).map fun d => (d, rest)

def textOf (r : Option (List Char × Rest)) : Option (Datum × Rest) :=
  r.map fun r => (.text (String.ofList r.1), r.2)

mutual

def readValue : Nat → Nat → Rest → Option (Datum × Rest)
  | 0, _, _ => none
  | fuel + 1, depth, cs =>
    match cs with
    | '"' :: '"' :: '"' :: rest => textOf (readBasicLines (rest.length + 1) (afterOpening rest))
    | '\'' :: '\'' :: '\'' :: rest => textOf (readLiteralLines (rest.length + 1) (afterOpening rest))
    | '"' :: rest => textOf (readBasic (rest.length + 1) rest)
    | '\'' :: rest => textOf (readLiteral rest)
    | '[' :: rest =>
      match depth with
      | 0 => none
      | depth + 1 => (readItems fuel depth rest).map fun r => (.list r.1, r.2)
    | '\x7b' :: rest =>
      match depth, skipBlanks rest with
      | 0, _ => none
      | _, '\x7d' :: rest => some (.table [], rest)
      | depth + 1, rest =>
        (readInline fuel depth [] rest).map fun r => (.table (entriesToData r.1), r.2)
    | cs => readScalar cs

def readItems : Nat → Nat → Rest → Option (List Datum × Rest)
  | 0, _, _ => none
  | fuel + 1, depth, cs =>
    match skipLines cs.length cs with
    | ']' :: rest => some ([], rest)
    | cs =>
      match readValue fuel depth cs with
      | none => none
      | some (item, rest) =>
        match skipLines rest.length rest with
        | ',' :: rest => (readItems fuel depth rest).map fun r => (item :: r.1, r.2)
        | ']' :: rest => some ([item], rest)
        | _ => none

def readInline : Nat → Nat → Entries → Rest → Option (Entries × Rest)
  | 0, _, _, _ => none
  | fuel + 1, depth, entries, cs =>
    match readKey cs with
    | some (path, '=' :: rest) =>
      match readValue fuel depth (skipBlanks rest) with
      | none => none
      | some (value, rest) =>
        match setKey path value entries, skipBlanks rest with
        | some entries, ',' :: rest => readInline fuel depth entries rest
        | some entries, '\x7d' :: rest => some (entries, rest)
        | _, _ => none
    | _ => none

end

def readHeader (cs : Rest) (root : Entries) : Option (List String × Entries × Rest) :=
  match cs with
  | '[' :: rest =>
    match readKey rest with
    | some (path, ']' :: ']' :: rest) => (stateElement path root).map fun root => (path, root, rest)
    | _ => none
  | rest =>
    match readKey rest with
    | some (path, ']' :: rest) => (stateTable path root).map fun root => (path, root, rest)
    | _ => none

def readLines : Nat → List String → Entries → Rest → Option Entries
  | 0, _, _, _ => none
  | fuel + 1, path, root, cs =>
    match skipLines cs.length cs with
    | [] => some root
    | '[' :: rest =>
      match readHeader rest root with
      | none => none
      | some (path, root, rest) =>
        match endOfLine? rest with
        | none => none
        | some rest => readLines fuel path root rest
    | cs =>
      match readKey cs with
      | some (key, '=' :: rest) =>
        match readValue (2 * rest.length + 2) (depthLimit - 1) (skipBlanks rest) with
        | none => none
        | some (value, rest) =>
          match within false (fun _ => setKey key value) path .stated root, endOfLine? rest with
          | some root, some rest => readLines fuel path root rest
          | _, _ => none
      | _ => none

def withoutMark : Rest → Rest
  | c :: rest => if c.toNat = 0xFEFF then rest else c :: rest
  | [] => []

def document? (cs : List Char) : Option (List (String × Datum)) :=
  (readLines (cs.length + 1) [] [] (withoutMark cs)).map entriesToData

end IsolatedSite.Toml
