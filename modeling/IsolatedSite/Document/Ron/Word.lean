import IsolatedSite.Document.Datum
import IsolatedSite.Number.Text
import IsolatedSite.Text.Hex

namespace IsolatedSite.Ron

abbrev Rest := List Char

def isBlank (c : Char) : Bool := c == ' ' || c == '\t' || c == '\n' || c == '\r'

def afterBlock : Nat → Rest → Option Rest
  | _, [] => none
  | depth, '*' :: '/' :: rest => if depth = 0 then some rest else afterBlock (depth - 1) rest
  | depth, '/' :: '*' :: rest => afterBlock (depth + 1) rest
  | depth, _ :: rest => afterBlock depth rest

def skip : Nat → Rest → Rest
  | 0, cs => cs
  | fuel + 1, cs =>
    match cs with
    | '/' :: '/' :: rest => skip fuel (rest.dropWhile (· != '\n'))
    | '/' :: '*' :: rest =>
      match afterBlock 0 rest with
      | some rest => skip fuel rest
      | none => cs
    | c :: rest => if isBlank c then skip fuel rest else cs
    | [] => []

def skipAll (cs : Rest) : Rest := skip (cs.length + 1) cs

def isNameStart (c : Char) : Bool := c.isAlpha || c == '_'

def isNameChar (c : Char) : Bool := c.isAlphanum || c == '_'

def isRawChar (c : Char) : Bool := isNameChar c || c == '.' || c == '+' || c == '-'

def splitWord (cs : Rest) : List Char × Rest := (cs.takeWhile isNameChar, cs.dropWhile isNameChar)

/-- A name that goes on like a raw one, but is not marked as raw, is refused. -/
def readPlainName (cs : Rest) : Option (String × Rest) :=
  let (name, rest) := splitWord cs
  if cs.head?.any isNameStart && !rest.head?.any isRawChar then some (String.ofList name, rest) else none

def readName (cs : Rest) : Option (String × Rest) :=
  match cs with
  | ['r'] => none
  | 'r' :: '"' :: _ => none
  | 'r' :: '#' :: rest =>
    let name := rest.takeWhile isRawChar
    if name.isEmpty then none else some (String.ofList name, rest.drop name.length)
  | cs => readPlainName cs

def readBracedCode (cs : Rest) : Option (Char × Rest) :=
  let ds := (cs.take 6).takeWhile (· != '\x7d')
  match cs.drop ds.length with
  | '\x7d' :: rest => ((Text.numberIn? 16 ds).bind Text.charOf?).map fun c => (c, rest)
  | _ => none

def readEscape : Rest → Option (Char × Rest)
  | '\'' :: rest => some ('\'', rest)
  | '"' :: rest => some ('"', rest)
  | '\\' :: rest => some ('\\', rest)
  | 'n' :: rest => some ('\n', rest)
  | 'r' :: rest => some ('\r', rest)
  | 't' :: rest => some ('\t', rest)
  | '0' :: rest => some (Char.ofNat 0, rest)
  | 'x' :: rest => Text.readCode 2 rest
  | 'u' :: '\x7b' :: rest => readBracedCode rest
  | _ => none

def readString : Nat → Rest → Option (List Char × Rest)
  | 0, _ => none
  | fuel + 1, cs =>
    match cs with
    | [] => none
    | '"' :: rest => some ([], rest)
    | '\\' :: rest =>
      match readEscape rest with
      | none => none
      | some (c, rest) => (readString fuel rest).map fun r => (c :: r.1, r.2)
    | c :: rest => (readString fuel rest).map fun r => (c :: r.1, r.2)

def readRaw (stop : List Char) : Rest → Option (List Char × Rest)
  | [] => none
  | c :: rest =>
    if stop.isPrefixOf (c :: rest) then some ([], (c :: rest).drop stop.length)
    else (readRaw stop rest).map fun r => (c :: r.1, r.2)

def readRawString (cs : Rest) : Option (List Char × Rest) :=
  let hashes := cs.takeWhile (· == '#')
  match cs.drop hashes.length with
  | '"' :: rest => readRaw ('"' :: hashes) rest
  | _ => none

def readChar : Rest → Option (Char × Rest)
  | '\\' :: rest =>
    match readEscape rest with
    | some (c, '\'' :: rest) => some (c, rest)
    | _ => none
  | c :: '\'' :: rest => if c = '\'' then none else some (c, rest)
  | _ => none

structure Quoted where
  single : Bool
  text : String

def readQuoted : Rest → Option (Quoted × Rest)
  | '"' :: rest => (readString (rest.length + 1) rest).map fun r => (⟨false, String.ofList r.1⟩, r.2)
  | '\'' :: rest => (readChar rest).map fun r => (⟨true, String.ofList [r.1]⟩, r.2)
  | 'r' :: rest => (readRawString rest).map fun r => (⟨false, String.ofList r.1⟩, r.2)
  | _ => none

def isWholeChar (c : Char) : Bool := (Text.hexValue? c).isSome || c == '_'

def isRealChar (c : Char) : Bool :=
  Decimal.isDigit c || c == 'e' || c == 'E' || c == '.' || c == '+' || c == '-' || c == '_'

def realWord? (word : List Char) : Option Binary64 :=
  let (negative, rest) := Binary64.splitSign word
  if rest = "inf".toList then some (.infinite negative)
  else if rest = "NaN".toList then some .notANumber
  else none

def readReal (cs : Rest) : Option (Datum × Rest) :=
  let sign := cs.take (cs.length - (Binary64.splitSign cs).2.length)
  let (word, rest) := splitWord (cs.drop sign.length)
  match realWord? (sign ++ word) with
  | some x => some (.real x, rest)
  | none =>
    let word := cs.takeWhile isRealChar
    if word.contains '_' then none
    else (Binary64.ofText? word).map fun x => (.real x, cs.drop word.length)

def splitBase : Rest → Nat × Rest
  | '0' :: 'x' :: rest => (16, rest)
  | '0' :: 'b' :: rest => (2, rest)
  | '0' :: 'o' :: rest => (8, rest)
  | rest => (10, rest)

/-- Whole numbers without a sign may have all 64 bits; the larger half of them is rounded. -/
def wholeDatum? (signed negative : Bool) (n : Nat) : Option Datum :=
  let whole? := Datum.ofInt? (if negative then -n else n)
  if signed || decide (n > Datum.greatestNat) then whole? else whole?.or (some (.real (.ofNat n)))

def readWhole (cs : Rest) : Option (Datum × Rest) :=
  let (negative, body) := Binary64.splitSign cs
  let (base, rest) := splitBase body
  let word := rest.takeWhile isWholeChar
  if word.head? = some '_' then none
  else
    ((Text.numberIn? base (word.filter (· != '_'))).bind
      (wholeDatum? (body.length != cs.length) negative)).map fun d => (d, rest.drop word.length)

/-- What cannot be read as a whole number is tried once more as one with a fraction. -/
def readNumber (cs : Rest) : Option (Datum × Rest) :=
  let body := (Binary64.splitSign cs).2
  if (body.takeWhile isRealChar).length > (body.takeWhile isWholeChar).length then readReal cs
  else (readWhole cs).or (readReal cs)

end IsolatedSite.Ron
