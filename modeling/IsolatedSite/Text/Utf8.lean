namespace IsolatedSite

abbrev Bytes := List UInt8

namespace Utf8

def encodeChar (c : Char) : Bytes :=
  let n := c.toNat
  if n < 0x80 then [n.toUInt8]
  else if n < 0x800 then [(0xC0 + n / 0x40).toUInt8, (0x80 + n % 0x40).toUInt8]
  else if n < 0x10000 then
    [(0xE0 + n / 0x1000).toUInt8, (0x80 + n / 0x40 % 0x40).toUInt8, (0x80 + n % 0x40).toUInt8]
  else
    [(0xF0 + n / 0x40000).toUInt8, (0x80 + n / 0x1000 % 0x40).toUInt8,
      (0x80 + n / 0x40 % 0x40).toUInt8, (0x80 + n % 0x40).toUInt8]

def encode (cs : List Char) : Bytes := cs.flatMap encodeChar

/-- A character some of whose octets have been read: its value so far, the number of octets still
owed, and the least and the greatest octet that may come next. -/
structure Pending where
  value : Nat
  owed : Nat
  low : Nat
  high : Nat
  deriving DecidableEq

inductive Reading where
  | whole (c : Char)
  | more (p : Pending)
  | refused
  deriving DecidableEq

/-- The first octet of a character. The bounds on the second octet keep out overlong forms,
surrogates and values above 0x10FFFF. -/
def lead (b : UInt8) : Reading :=
  let n := b.toNat
  if n < 0x80 then .whole (Char.ofNat n)
  else if n < 0xC2 then .refused
  else if n < 0xE0 then .more ⟨n - 0xC0, 1, 0x80, 0xBF⟩
  else if n = 0xE0 then .more ⟨0, 2, 0xA0, 0xBF⟩
  else if n = 0xED then .more ⟨13, 2, 0x80, 0x9F⟩
  else if n < 0xF0 then .more ⟨n - 0xE0, 2, 0x80, 0xBF⟩
  else if n = 0xF0 then .more ⟨0, 3, 0x90, 0xBF⟩
  else if n < 0xF4 then .more ⟨n - 0xF0, 3, 0x80, 0xBF⟩
  else if n = 0xF4 then .more ⟨4, 3, 0x80, 0x8F⟩
  else .refused

def Pending.next (p : Pending) (b : UInt8) : Reading :=
  let n := b.toNat
  if p.low ≤ n ∧ n ≤ p.high then
    let value := p.value * 0x40 + n % 0x40
    if p.owed ≤ 1 then .whole (Char.ofNat value) else .more ⟨value, p.owed - 1, 0x80, 0xBF⟩
  else .refused

def next : Option Pending → UInt8 → Reading
  | none, b => lead b
  | some p, b => p.next b

def decodeFrom : Option Pending → Bytes → Option (List Char)
  | none, [] => some []
  | some _, [] => none
  | q, b :: bs =>
    match next q b with
    | .whole c => (decodeFrom none bs).map (c :: ·)
    | .more p => decodeFrom (some p) bs
    | .refused => none

def decode? (bs : Bytes) : Option (List Char) := decodeFrom none bs

def replacement : Char := Char.ofNat 0xFFFD

/-- An octet that cannot continue a character ends it and is read as the first of the next one. -/
def lossyFrom : Option Pending → Bytes → List Char
  | none, [] => []
  | some _, [] => [replacement]
  | none, b :: bs =>
    match lead b with
    | .whole c => c :: lossyFrom none bs
    | .more p => lossyFrom (some p) bs
    | .refused => replacement :: lossyFrom none bs
  | some q, b :: bs =>
    match q.next b with
    | .whole c => c :: lossyFrom none bs
    | .more p => lossyFrom (some p) bs
    | .refused =>
      match lead b with
      | .whole c => replacement :: c :: lossyFrom none bs
      | .more p => replacement :: lossyFrom (some p) bs
      | .refused => replacement :: replacement :: lossyFrom none bs

def lossy (bs : Bytes) : List Char := lossyFrom none bs

def octets (s : String) : Bytes := encode s.toList

def text? (bs : Bytes) : Option String := (decode? bs).map String.ofList

def lossyText (bs : Bytes) : String := String.ofList (lossy bs)

end Utf8

end IsolatedSite
