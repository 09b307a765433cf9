import IsolatedSite.Document.Datum
import IsolatedSite.Text.Blank
import IsolatedSite.Text.CaseTable
import IsolatedSite.Text.Hex
import IsolatedSite.Text.LetterTable

namespace IsolatedSite.Json5

abbrev Rest := List Char

def isLineEnd (c : Char) : Bool := c == '\n' || c == '\r' || c.toNat == 0x2028 || c.toNat == 0x2029

def isSpace (c : Char) : Bool :=
  Text.isSpace c || isLineEnd c || [0x09, 0x0B, 0x0C, 0xFEFF].contains c.toNat

def afterBlockComment : Rest → Option Rest
  | '*' :: '/' :: rest => some rest
  | _ :: rest => afterBlockComment rest
  | [] => none

def skip : Nat → Rest → Rest
  | 0, cs => cs
  | fuel + 1, cs =>
    match cs with
    | '/' :: '/' :: rest => skip fuel (rest.dropWhile (!isLineEnd ·))
    | '/' :: '*' :: rest =>
      match afterBlockComment rest with
      | some rest => skip fuel rest
      | none => cs
    | c :: rest => if isSpace c then skip fuel rest else cs
    | [] => []

def skipAll (cs : Rest) : Rest := skip (cs.length + 1) cs

def afterContinuation? : Rest → Option Rest
  | '\\' :: '\r' :: '\n' :: rest => some rest
  | '\\' :: c :: rest => if isLineEnd c then some rest else none
  | _ => none

def skipContinuations : Nat → Rest → Rest
  | 0, cs => cs
  | fuel + 1, cs =>
    match afterContinuation? cs with
    | some rest => skipContinuations fuel rest
    | none => cs

def readHex4 (cs : Rest) : Option (Nat × Rest) :=
  if (cs.take 4).length = 4 then (Text.numberIn? 16 (cs.take 4)).map fun n => (n, cs.drop 4) else none

/-- The character of a high surrogate and the low one that has to follow. The bit that lifts a pair
above the first plane is set rather than added, so a pair for a plane of an even number gives the
plane before it. -/
def surrogatePair? (high : Nat) (cs : Rest) : Option (Char × Rest) :=
  match skipContinuations cs.length cs with
  | '\\' :: 'u' :: rest =>
    match readHex4 rest with
    | some (low, rest) =>
      if 0xDC00 ≤ low ∧ low ≤ 0xDFFF then
        some (Char.ofNat (((high - 0xD800) * 0x400) ||| (low - 0xDC00 + 0x10000)), rest)
      else none
    | none => none
  | _ => none

def readUnicode (cs : Rest) : Option (Char × Rest) :=
  match readHex4 cs with
  | some (n, rest) =>
    if 0xD800 ≤ n ∧ n ≤ 0xDBFF then surrogatePair? n rest
    else (Text.charOf? n).map fun c => (c, rest)
  | none => none

def readEscape : Rest → Option (Char × Rest)
  | 'b' :: rest => some (Char.ofNat 8, rest)
  | 'f' :: rest => some (Char.ofNat 12, rest)
  | 'n' :: rest => some ('\n', rest)
  | 'r' :: rest => some ('\r', rest)
  | 't' :: rest => some ('\t', rest)
  | 'v' :: rest => some (Char.ofNat 11, rest)
  | '0' :: rest => some (Char.ofNat 0, rest)
  | 'x' :: rest => Text.readCode 2 rest
  | 'u' :: rest => readUnicode rest
  | c :: rest => if Decimal.isDigit c then none else some (c, rest)
  | [] => none

def readString (quote : Char) : Nat → Rest → Option (List Char × Rest)
  | 0, _ => none
  | fuel + 1, cs =>
    match afterContinuation? cs with
    | some rest => readString quote fuel rest
    | none =>
      match cs with
      | [] => none
      | '\\' :: rest =>
        match readEscape rest with
        | none => none
        | some (c, rest) => (readString quote fuel rest).map fun r => (c :: r.1, r.2)
      | c :: rest =>
        if c = quote then some ([], rest)
        else if isLineEnd c then none
        else (readString quote fuel rest).map fun r => (c :: r.1, r.2)

def isNameStart (c : Char) : Bool :=
  c == '$' || c == '_' || c.isAlpha || (0x80 ≤ c.toNat && Text.inRanges Text.letters c.toNat)

def isNameChar (c : Char) : Bool := isNameStart c || Text.inRanges Text.letterFollowers c.toNat

def readName (allowed : Char → Bool) : Nat → Rest → Option (List Char × Rest)
  | 0, _ => none
  | fuel + 1, cs =>
    match cs with
    | '\\' :: 'u' :: rest =>
      match readUnicode rest with
      | none => none
      | some (c, rest) => (readName isNameChar fuel rest).map fun r => (c :: r.1, r.2)
    | c :: rest =>
      if allowed c then (readName isNameChar fuel rest).map fun r => (c :: r.1, r.2)
      else some ([], cs)
    | [] => some ([], [])

def readKey (cs : Rest) : Option (String × Rest) :=
  match cs with
  | '"' :: rest => (readString '"' (rest.length + 1) rest).map fun r => (String.ofList r.1, r.2)
  | '\'' :: rest => (readString '\'' (rest.length + 1) rest).map fun r => (String.ofList r.1, r.2)
  | cs =>
    match readName isNameStart (cs.length + 1) cs with
    | some ([], _) => none
    | r => r.map fun r => (String.ofList r.1, r.2)

def splitDigits (cs : Rest) : List Char × Rest :=
  (cs.takeWhile Decimal.isDigit, cs.dropWhile Decimal.isDigit)

def readExponent (cs : Rest) : Option (Option Int × Rest) :=
  match cs with
  | c :: rest =>
    if c == 'e' || c == 'E' then
      let (negative, rest) :=
        match rest with
        | '-' :: rest => (true, rest)
        | '+' :: rest => (false, rest)
        | rest => (false, rest)
      let (ds, rest) := splitDigits rest
      if ds.isEmpty then none
      else some (some (if negative then -(Decimal.value ds : Int) else Decimal.value ds), rest)
    else some (none, cs)
  | [] => some (none, [])

def readDecimal (negative : Bool) (cs : Rest) : Option (Datum × Rest) :=
  let (whole, rest) := splitDigits cs
  let (hasPoint, fraction, rest) :=
    match rest with
    | '.' :: rest => (true, (splitDigits rest).1, (splitDigits rest).2)
    | rest => (false, [], rest)
  if (whole.isEmpty && fraction.isEmpty) || (whole.length > 1 && whole.head? == some '0') then none
  else
    match readExponent rest with
    | none => none
    | some (exponent, rest) =>
      if !hasPoint && exponent.isNone then
        let n : Int := Decimal.value whole
        (Datum.ofInt? (if negative then -n else n)).map fun d => (d, rest)
      else
        (Datum.ofReal? (.ofDecimal negative (Decimal.value (whole ++ fraction))
          (exponent.getD 0 - fraction.length))).map fun d => (d, rest)

def greatestHex : Nat := 4294967295

def readHex (cs : Rest) : Option (Datum × Rest) :=
  let ds := cs.takeWhile fun c => (Text.hexValue? c).isSome
  match Text.numberIn? 16 ds with
  | some n => if n ≤ greatestHex then some (.int n, cs.drop ds.length) else none
  | none => none

def readNumber (cs : Rest) : Option (Datum × Rest) :=
  match cs with
  | '+' :: rest => readDecimal false rest
  | '-' :: rest =>
    if "Infinity".toList.isPrefixOf rest then some (.real (.infinite true), rest.drop 8)
    else if "NaN".toList.isPrefixOf rest then some (.real .notANumber, rest.drop 3)
    else readDecimal true rest
  | '0' :: 'x' :: rest => readHex rest
  | '0' :: 'X' :: rest => readHex rest
  | cs =>
    if "Infinity".toList.isPrefixOf cs then some (.real (.infinite false), cs.drop 8)
    else if "NaN".toList.isPrefixOf cs then some (.real .notANumber, cs.drop 3)
    else readDecimal false cs

def readWord (cs : Rest) : Option (Datum × Rest) :=
  if "null".toList.isPrefixOf cs then some (.nil, cs.drop 4)
  else if "true".toList.isPrefixOf cs then some (.bool true, cs.drop 4)
  else if "false".toList.isPrefixOf cs then some (.bool false, cs.drop 5)
  else readNumber cs

mutual

def readValue : Nat → Rest → Option (Datum × Rest)
  | 0, _ => none
  | fuel + 1, cs =>
    match skipAll cs with
    | '"' :: rest =>
      (readString '"' (rest.length + 1) rest).map fun r => (.text (String.ofList r.1), r.2)
    | '\'' :: rest =>
      (readString '\'' (rest.length + 1) rest).map fun r => (.text (String.ofList r.1), r.2)
    | '[' :: rest => (readItems fuel rest).map fun r => (.list r.1, r.2)
    | '\x7b' :: rest => (readFields fuel [] rest).map fun r => (.table r.1, r.2)
    | cs => readWord cs

def readItems : Nat → Rest → Option (List Datum × Rest)
  | 0, _ => none
  | fuel + 1, cs =>
    match skipAll cs with
    | ']' :: rest => some ([], rest)
    | cs =>
      match readValue fuel cs with
      | none => none
      | some (item, rest) =>
        match skipAll rest with
        | ',' :: rest => (readItems fuel rest).map fun r => (item :: r.1, r.2)
        | ']' :: rest => some ([item], rest)
        | _ => none

def readFields : Nat → List (String × Datum) → Rest → Option (List (String × Datum) × Rest)
  | 0, _, _ => none
  | fuel + 1, entries, cs =>
    match skipAll cs with
    | '\x7d' :: rest => some (entries, rest)
    | cs =>
      match readKey cs with
      | none => none
      | some (key, rest) =>
        match skipAll rest with
        | ':' :: rest =>
          match readValue fuel rest with
          | none => none
          | some (value, rest) =>
            match skipAll rest with
            | ',' :: rest => readFields fuel (Datum.put key value entries) rest
            | '\x7d' :: rest => some (Datum.put key value entries, rest)
            | _ => none
        | _ => none

end

def document? (cs : List Char) : Option (List (String × Datum)) :=
  match readValue (2 * cs.length + 2) cs with
  | some (value, rest) => if (skipAll rest).isEmpty then value.entries? else none
  | none => none

end IsolatedSite.Json5
