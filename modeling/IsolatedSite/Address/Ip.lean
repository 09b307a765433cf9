import IsolatedSite.Text.Decimal
import IsolatedSite.Text.Hex
import IsolatedSite.Text.Quoted
import IsolatedSite.Text.Split

namespace IsolatedSite

inductive IpAddress where
  | v4 (octets : List Nat)
  | v6 (groups : List Nat)
  deriving DecidableEq, Repr

namespace IpAddress

def dotted (octets : List Nat) : List Char := joinWith ['.'] (octets.map Decimal.digits)

def isMapped (groups : List Nat) : Bool := groups.take 6 == [0, 0, 0, 0, 0, 0xFFFF]

def octetsOf (groups : List Nat) : List Nat := groups.flatMap fun g => [g / 256, g % 256]

def zerosAhead (groups : List Nat) : Nat := (groups.takeWhile (· == 0)).length

def longestZeros : Nat → List Nat → Nat × Nat
  | _, [] => (0, 0)
  | start, g :: gs =>
    let here := zerosAhead (g :: gs)
    let later := longestZeros (start + 1) gs
    if here ≥ later.2 ∧ here > 0 then (start, here) else later

def hexGroups (groups : List Nat) : List Char := joinWith [':'] (groups.map Text.hexDigits)

/-- The longest run of two or more zero groups is left out, and an address that stands for one of
four octets ends in its dotted form. -/
def v6Digits (groups : List Nat) : List Char :=
  if isMapped groups then "::ffff:".toList ++ dotted (octetsOf (groups.drop 6))
  else
    let (start, length) := longestZeros 0 groups
    if length > 1 then
      hexGroups (groups.take start) ++ [':', ':'] ++ hexGroups (groups.drop (start + length))
    else hexGroups groups

def text : IpAddress → String
  | .v4 octets => String.ofList (dotted octets)
  | .v6 groups => String.ofList (v6Digits groups)

def isV6 : IpAddress → Bool
  | .v4 _ => false
  | .v6 _ => true

def readOctet? (cs : List Char) : Option Nat :=
  match Decimal.read? cs with
  | some n => if n ≤ 255 ∧ cs.length ≤ 3 ∧ (cs.length = 1 ∨ cs.head? ≠ some '0') then some n else none
  | none => none

def readV4? (cs : List Char) : Option (List Nat) :=
  let parts := splitOn '.' cs
  if parts.length = 4 then parts.mapM readOctet? else none

def readGroup? (cs : List Char) : Option Nat := if cs.length ≤ 4 then Text.numberIn? 16 cs else none

def readGroups? : List (List Char) → Option (List Nat)
  | [] => some []
  | [last] =>
    match readGroup? last with
    | some g => some [g]
    | none =>
      match readV4? last with
      | some [a, b, c, d] => some [a * 256 + b, c * 256 + d]
      | _ => none
  | part :: parts =>
    match readGroup? part with
    | none => none
    | some g => (readGroups? parts).map (g :: ·)

def readSide? (cs : List Char) : Option (List Nat) :=
  if cs.isEmpty then some [] else readGroups? (splitOn ':' cs)

def splitDouble : List Char → Option (List Char × List Char)
  | ':' :: ':' :: rest => some ([], rest)
  | c :: rest => (splitDouble rest).map fun r => (c :: r.1, r.2)
  | [] => none

/-- A double colon stands for the groups that are missing, at least one. In front of it there is no
dotted form. -/
def readV6? (cs : List Char) : Option (List Nat) :=
  match splitDouble cs with
  | none =>
    match readGroups? (splitOn ':' cs) with
    | some groups => if groups.length = 8 then some groups else none
    | none => none
  | some (before, after) =>
    if before.contains '.' then none
    else
      match readSide? before, readSide? after with
      | some head, some tail =>
        if head.length + tail.length ≤ 7 then
          some (head ++ List.replicate (8 - head.length - tail.length) 0 ++ tail)
        else none
      | _, _ => none

def parse? (s : String) : Option IpAddress :=
  match readV4? s.toList with
  | some octets => some (.v4 octets)
  | none => (readV6? s.toList).map .v6

/-- A number as addresses in numeric form use it: a leading zero makes it octal, `0x` hexadecimal. -/
def readNumber? (cs : List Char) : Option Nat :=
  match cs with
  | '0' :: 'x' :: ds => Text.numberIn? 16 ds
  | '0' :: 'X' :: ds => Text.numberIn? 16 ds
  | '0' :: d :: ds => Text.numberIn? 8 (d :: ds)
  | cs => Text.numberIn? 10 cs

def octetsOfNumber (n : Nat) : List Nat := [n / 16777216 % 256, n / 65536 % 256, n / 256 % 256, n % 256]

def fromNumbers? (parts : List Nat) : Option IpAddress :=
  match parts with
  | [a] => if a < 4294967296 then some (.v4 (octetsOfNumber a)) else none
  | [a, b] =>
    if a < 256 ∧ b < 16777216 then some (.v4 (octetsOfNumber (a * 16777216 + b))) else none
  | [a, b, c] =>
    if a < 256 ∧ b < 256 ∧ c < 65536 then
      some (.v4 (octetsOfNumber (a * 16777216 + b * 65536 + c)))
    else none
  | [a, b, c, d] => if a < 256 ∧ b < 256 ∧ c < 256 ∧ d < 256 then some (.v4 [a, b, c, d]) else none
  | _ => none

def readNumeric? (s : String) : Option IpAddress :=
  ((splitOn '.' s.toList).mapM readNumber?).bind fromNumbers?

def ofHost? (s : String) : Option IpAddress := (parse? s).or (readNumeric? s)

end IpAddress

end IsolatedSite
