import IsolatedSite.Text.Utf8

namespace IsolatedSite.Percent

def percent : UInt8 := 0x25

def hexValue? (b : UInt8) : Option UInt8 :=
  if 0x30 ≤ b ∧ b ≤ 0x39 then some (b - 0x30)
  else if 0x41 ≤ b ∧ b ≤ 0x46 then some (b - 0x41 + 10)
  else if 0x61 ≤ b ∧ b ≤ 0x66 then some (b - 0x61 + 10)
  else none

def decode : Bytes → Bytes
  | [] => []
  | [a] => [a]
  | [a, b] => [a, b]
  | a :: b :: c :: rest =>
    if a = percent then
      match hexValue? b with
      | none => a :: decode (b :: c :: rest)
      | some high =>
        match hexValue? c with
        | none => a :: b :: decode (c :: rest)
        | some low => (high * 16 + low) :: decode rest
    else a :: decode (b :: c :: rest)

def decodeText? (s : String) : Option String := Utf8.text? (decode (Utf8.octets s))

def isUnreserved (b : UInt8) : Bool :=
  (0x30 ≤ b && b ≤ 0x39) || (0x41 ≤ b && b ≤ 0x5A) || (0x61 ≤ b && b ≤ 0x7A) ||
    b == 0x2D || b == 0x5F || b == 0x2E || b == 0x7E

def upperHex (n : UInt8) : UInt8 := if n < 10 then 0x30 + n else 0x41 + (n - 10)

def encodeByte (b : UInt8) : Bytes :=
  if isUnreserved b then [b] else [percent, upperHex (b / 16), upperHex (b % 16)]

def encode (bs : Bytes) : Bytes := bs.flatMap encodeByte

def encodeText (s : String) : String :=
  String.ofList ((encode (Utf8.octets s)).map fun b => Char.ofNat b.toNat)

end IsolatedSite.Percent
