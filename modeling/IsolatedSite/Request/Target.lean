import IsolatedSite.Text.Split
import IsolatedSite.Text.Utf8

namespace IsolatedSite

structure Target where
  path : String
  query : Option String
  deriving DecidableEq, Repr

inductive TargetFault where
  | tooLong
  | schemeTooLong
  | empty
  | badCharacter
  | badAuthority
  | badFormat
  deriving DecidableEq, Repr

namespace TargetFault

def message : TargetFault → String
  | .tooLong => "uri too long"
  | .schemeTooLong => "scheme too long"
  | .empty => "empty string"
  | .badCharacter => "invalid uri character"
  | .badAuthority => "invalid authority"
  | .badFormat => "invalid format"

end TargetFault

namespace Target

def isLetter (b : UInt8) : Bool := (0x41 ≤ b && b ≤ 0x5A) || (0x61 ≤ b && b ≤ 0x7A)

def isDigit (b : UInt8) : Bool := 0x30 ≤ b && b ≤ 0x39

def isPathByte (b : UInt8) : Bool :=
  b == 0x21 || b == 0x22 || (0x24 ≤ b && b ≤ 0x3B) || b == 0x3D || (0x40 ≤ b && b ≤ 0x5F) ||
    (0x61 ≤ b && b ≤ 0x7E) || 0x80 ≤ b

def isQueryByte (b : UInt8) : Bool :=
  b == 0x21 || (0x24 ≤ b && b ≤ 0x3B) || b == 0x3D || (0x3F ≤ b && b ≤ 0x7E) || 0x80 ≤ b

def isSchemeByte (b : UInt8) : Bool :=
  isLetter b || isDigit b || b == 0x2B || b == 0x2D || b == 0x2E || b == 0x7E

def isAuthorityByte (b : UInt8) : Bool :=
  isLetter b || isDigit b ||
    [0x21, 0x24, 0x26, 0x27, 0x28, 0x29, 0x2A, 0x2B, 0x2C, 0x2D, 0x2E, 0x3B, 0x3D, 0x5F, 0x7E].contains b

def hash : UInt8 := 0x23
def question : UInt8 := 0x3F
def colon : UInt8 := 0x3A
def slash : UInt8 := 0x2F

/-- A path with its query. What follows a hash sign is dropped. An empty path is the root. -/
def ofPath (bs : Bytes) : Except TargetFault Target :=
  let shown := (splitFirst hash bs).1
  let (path, query) := splitFirst question shown
  if !path.all isPathByte || !(query.getD []).all isQueryByte then .error .badCharacter
  else
    match Utf8.text? path, Utf8.text? (query.getD []) with
    | some path, some queryText =>
      .ok ⟨if path = "" then "/" else path, query.map fun _ => queryText⟩
    | _, _ => .error .badCharacter

/-- What has been seen of an authority. Colons and percent signs of the user information and of a
bracketed address do not count. -/
structure AuthorityScan where
  colons : Nat := 0
  opened : Bool := false
  closed : Bool := false
  percent : Bool := false
  afterAt : Bool := false
  deriving DecidableEq

namespace AuthorityScan

def step (s : AuthorityScan) (b : UInt8) : Except TargetFault AuthorityScan :=
  if b = colon then
    if s.colons ≥ 8 then .error .badAuthority
    else .ok { s with colons := s.colons + 1, afterAt := false }
  else if b = 0x5B then
    if s.percent || s.opened then .error .badAuthority
    else .ok { s with opened := true, afterAt := false }
  else if b = 0x5D then
    if !s.opened || s.closed then .error .badAuthority
    else .ok { s with closed := true, colons := 0, percent := false, afterAt := false }
  else if b = 0x40 then .ok { s with colons := 0, percent := false, afterAt := true }
  else if b = 0x25 then .ok { s with percent := true, afterAt := false }
  else if isAuthorityByte b then .ok { s with afterAt := false }
  else .error .badCharacter

def isSound (s : AuthorityScan) : Bool :=
  s.opened == s.closed && s.colons ≤ 1 && !s.afterAt && !s.percent

end AuthorityScan

def endsAuthority (b : UInt8) : Bool := b == slash || b == question || b == hash

def splitAuthority (bs : Bytes) : Except TargetFault (Bytes × Bytes) :=
  let authority := bs.takeWhile (!endsAuthority ·)
  match authority.foldlM AuthorityScan.step {} with
  | .error e => .error e
  | .ok scan =>
    if scan.isSound then .ok (authority, bs.dropWhile (!endsAuthority ·)) else .error .badAuthority

def lowerByte (b : UInt8) : UInt8 := if 0x41 ≤ b ∧ b ≤ 0x5A then b + 0x20 else b

def afterScheme? (bs : Bytes) : Except TargetFault (Option Bytes) :=
  if (bs.take 7).map lowerByte = Utf8.octets "http://" then .ok (some (bs.drop 7))
  else if (bs.take 8).map lowerByte = Utf8.octets "https://" then .ok (some (bs.drop 8))
  else if bs.length ≤ 3 then .ok none
  else
    let scheme := bs.takeWhile isSchemeByte
    if (bs.drop scheme.length).take 3 = Utf8.octets "://" then
      if scheme.length > 64 then .error .schemeTooLong
      else .ok (some (bs.drop (scheme.length + 3)))
    else .ok none

def authorityAlone : Target := ⟨"", none⟩

def ofFull (bs : Bytes) : Except TargetFault Target :=
  match afterScheme? bs with
  | .error e => .error e
  | .ok none =>
    match splitAuthority bs with
    | .error e => .error e
    | .ok (_, rest) => if rest.isEmpty then .ok authorityAlone else .error .badFormat
  | .ok (some rest) =>
    if rest.isEmpty then .error .empty
    else
      match splitAuthority rest with
      | .error e => .error e
      | .ok (authority, rest) => if authority.isEmpty then .error .badFormat else ofPath rest

def lengthLimit : Nat := 65534

def parse (bs : Bytes) : Except TargetFault Target :=
  if bs.length > lengthLimit then .error .tooLong
  else
    match bs with
    | [] => .error .empty
    | [b] =>
      if b = slash then .ok ⟨"/", none⟩
      else if b = 0x2A then .ok ⟨"*", none⟩
      else
        match splitAuthority [b] with
        | .error e => .error e
        | .ok (_, rest) => if rest.isEmpty then .ok authorityAlone else .error .badCharacter
    | b :: _ => if b = slash then ofPath bs else ofFull bs

end Target

end IsolatedSite
