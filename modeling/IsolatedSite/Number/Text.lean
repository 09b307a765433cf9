import IsolatedSite.Number.Binary64
import IsolatedSite.Text.Split

namespace IsolatedSite.Binary64

def splitSign : List Char → Bool × List Char
  | '-' :: rest => (true, rest)
  | '+' :: rest => (false, rest)
  | rest => (false, rest)

def signedNat? (cs : List Char) : Option Int :=
  let (negative, ds) := splitSign cs
  (Decimal.read? ds).map fun n => if negative then -(n : Int) else n

def ofUnsigned? (negative : Bool) (cs : List Char) : Option Binary64 :=
  let (front, exponent) := splitFirst 'e' cs
  let (whole, fraction) := splitFirst '.' front
  let fraction := fraction.getD []
  match Decimal.read? (whole ++ fraction), exponent.mapM signedNat? with
  | some n, some exponent => some (.ofDecimal negative n (exponent.getD 0 - fraction.length))
  | _, _ => none

def ofText? (cs : List Char) : Option Binary64 :=
  let (negative, rest) := splitSign cs
  let rest := rest.map Char.toLower
  if rest = "inf".toList ∨ rest = "infinity".toList then some (.infinite negative)
  else if rest = "nan".toList then some .notANumber
  else ofUnsigned? negative rest

end IsolatedSite.Binary64
