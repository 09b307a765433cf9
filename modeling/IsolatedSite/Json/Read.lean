import IsolatedSite.Json.Basic
import IsolatedSite.Text.Hex

namespace IsolatedSite.Json

abbrev Rest := List Char

def isBlank (c : Char) : Bool := c == ' ' || c == '\n' || c == '\t' || c == '\r'

def skipBlanks (cs : Rest) : Rest := cs.dropWhile isBlank

def readHex4 : Rest → Option (Nat × Rest)
  | a :: b :: c :: d :: rest =>
    match Text.hexValue? a, Text.hexValue? b, Text.hexValue? c, Text.hexValue? d with
    | some a, some b, some c, some d => some (((a * 16 + b) * 16 + c) * 16 + d, rest)
    | _, _, _, _ => none
  | _ => none

def plainEscape? (c : Char) : Option Char :=
  match c with
  | '"' => some '"'
  | '\\' => some '\\'
  | '/' => some '/'
  | 'b' => some (Char.ofNat 8)
  | 'f' => some (Char.ofNat 12)
  | 'n' => some '\n'
  | 'r' => some '\r'
  | 't' => some '\t'
  | _ => none

/-- The character that a four-digit escape begins. A high surrogate needs a low one after it. -/
def readUnicode (rest : Rest) : Option (Char × Rest) :=
  match readHex4 rest with
  | none => none
  | some (n, rest) =>
    if n < 0xD800 ∨ 0xDFFF < n then some (Char.ofNat n, rest)
    else if 0xDC00 ≤ n then none
    else
      match rest with
      | '\\' :: 'u' :: more =>
        match readHex4 more with
        | some (m, rest) =>
          if 0xDC00 ≤ m ∧ m ≤ 0xDFFF then
            some (Char.ofNat (0x10000 + (n - 0xD800) * 0x400 + (m - 0xDC00)), rest)
          else none
        | none => none
      | _ => none

def readChars : Nat → Rest → Option (List Char × Rest)
  | 0, _ => none
  | fuel + 1, cs =>
    match cs with
    | [] => none
    | '"' :: rest => some ([], rest)
    | '\\' :: 'u' :: rest =>
      match readUnicode rest with
      | none => none
      | some (c, rest) => (readChars fuel rest).map fun r => (c :: r.1, r.2)
    | '\\' :: c :: rest =>
      match plainEscape? c with
      | none => none
      | some c => (readChars fuel rest).map fun r => (c :: r.1, r.2)
    | c :: rest =>
      if c.toNat < 0x20 ∨ c = '\\' then none
      else (readChars fuel rest).map fun r => (c :: r.1, r.2)

def readString (cs : Rest) : Option (String × Rest) :=
  (readChars (cs.length + 1) cs).map fun r => (String.ofList r.1, r.2)

def readDigits (cs : Rest) : List Char × Rest :=
  (cs.takeWhile Decimal.isDigit, cs.dropWhile Decimal.isDigit)

def readFraction : Rest → Option (List Char × Rest)
  | '.' :: rest =>
    let (ds, rest) := readDigits rest
    if ds.isEmpty then none else some (ds, rest)
  | rest => some ([], rest)

def readSignedExponent (negative : Bool) (rest : Rest) : Option (Option Int × Rest) :=
  let (ds, rest) := readDigits rest
  if ds.isEmpty then none
  else
    let n : Int := Decimal.value ds
    some (some (if negative then -n else n), rest)

def readExponent : Rest → Option (Option Int × Rest)
  | c :: rest =>
    if c = 'e' ∨ c = 'E' then
      match rest with
      | '+' :: rest => readSignedExponent false rest
      | '-' :: rest => readSignedExponent true rest
      | rest => readSignedExponent false rest
    else some (none, c :: rest)
  | [] => some (none, [])

def readUnsigned (negative : Bool) (cs : Rest) : Option (Numeral × Rest) :=
  let (whole, rest) := readDigits cs
  if whole.isEmpty || (whole.head? == some '0' && whole.length > 1) then none
  else
    match readFraction rest with
    | none => none
    | some (fraction, rest) =>
      match readExponent rest with
      | none => none
      | some (exponent, rest) =>
        some (⟨negative, whole, fraction, exponent⟩, rest)

def readNumeral : Rest → Option (Numeral × Rest)
  | '-' :: rest => readUnsigned true rest
  | rest => readUnsigned false rest

def afterWord (word : String) (cs : Rest) : Option Rest :=
  if word.toList.isPrefixOf cs then some (cs.drop word.length) else none

mutual

/-- One value and what follows it. The number bounds the characters looked at. -/
def readValue : Nat → Nat → Rest → Option (Json × Rest)
  | 0, _, _ => none
  | fuel + 1, depth, cs =>
    match skipBlanks cs with
    | [] => none
    | 'n' :: rest => (afterWord "ull" rest).map fun r => (.null, r)
    | 't' :: rest => (afterWord "rue" rest).map fun r => (.bool true, r)
    | 'f' :: rest => (afterWord "alse" rest).map fun r => (.bool false, r)
    | '"' :: rest => (readString rest).map fun r => (.string r.1, r.2)
    | '[' :: rest =>
      match depth with
      | 0 => none
      | depth + 1 =>
        match skipBlanks rest with
        | ']' :: rest => some (.array [], rest)
        | rest => (readItems fuel depth rest).map fun r => (.array r.1, r.2)
    | '\x7b' :: rest =>
      match depth with
      | 0 => none
      | depth + 1 =>
        match skipBlanks rest with
        | '\x7d' :: rest => some (.object [], rest)
        | rest => (readFields fuel depth rest).map fun r => (.object r.1, r.2)
    | cs => (readNumeral cs).map fun r => (.number r.1, r.2)

def readItems : Nat → Nat → Rest → Option (List Json × Rest)
  | 0, _, _ => none
  | fuel + 1, depth, cs =>
    match readValue fuel depth cs with
    | none => none
    | some (item, rest) =>
      match skipBlanks rest with
      | ',' :: rest => (readItems fuel depth rest).map fun r => (item :: r.1, r.2)
      | ']' :: rest => some ([item], rest)
      | _ => none

def readFields : Nat → Nat → Rest → Option (List (String × Json) × Rest)
  | 0, _, _ => none
  | fuel + 1, depth, cs =>
    match skipBlanks cs with
    | '"' :: rest =>
      match readString rest with
      | none => none
      | some (name, rest) =>
        match skipBlanks rest with
        | ':' :: rest =>
          match readValue fuel depth rest with
          | none => none
          | some (value, rest) =>
            match skipBlanks rest with
            | ',' :: rest => (readFields fuel depth rest).map fun r => ((name, value) :: r.1, r.2)
            | '\x7d' :: rest => some ([(name, value)], rest)
            | _ => none
        | _ => none
    | _ => none

end

def depthLimit : Nat := 127

def parse (cs : List Char) : Option Json :=
  match readValue (2 * cs.length + 2) depthLimit cs with
  | some (value, rest) => if (skipBlanks rest).isEmpty then some value else none
  | none => none

end IsolatedSite.Json
