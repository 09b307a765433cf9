import IsolatedSite.Text.Decimal

namespace IsolatedSite

/-- A finite number is `mantissa * 2 ^ exponent` with a sign. -/
inductive Binary64 where
  | finite (negative : Bool) (mantissa : Nat) (exponent : Int)
  | infinite (negative : Bool)
  | notANumber
  deriving DecidableEq, Repr

namespace Binary64

def roundDiv (num den : Nat) : Nat :=
  let q := num / den
  let r := num % den
  if 2 * r < den then q else if den < 2 * r then q + 1 else q + q % 2

def scaled (num den : Nat) (exponent : Int) : Nat × Nat :=
  if exponent ≥ 0 then (num, den * Nat.pow 2 exponent.toNat)
  else (num * Nat.pow 2 (-exponent).toNat, den)

def leastExponent : Int := -1074

def greatestExponent : Int := 971

def ofFraction (negative : Bool) (num den : Nat) : Binary64 :=
  let guess : Int := (num.log2 : Int) - den.log2 - 52
  let fits : Int → Bool := fun e =>
    let (n, d) := scaled num den e
    n < d * Nat.pow 2 53
  let e := if fits (guess - 1) then guess - 1 else if fits guess then guess else guess + 1
  let e := max e leastExponent
  let (n, d) := scaled num den e
  let q := roundDiv n d
  let (q, e) := if q = Nat.pow 2 53 then (Nat.pow 2 52, e + 1) else (q, e)
  if e > greatestExponent then .infinite negative else .finite negative q e

/-- The number nearest to a decimal. Exponents far outside the range are not worked out. -/
def ofDecimal (negative : Bool) (digits : Nat) (exponent : Int) : Binary64 :=
  if digits = 0 then .finite negative 0 0
  else
    let size : Int := exponent + (Decimal.digits digits).length
    if size > 310 then .infinite negative
    else if size < -400 then .finite negative 0 0
    else if exponent ≥ 0 then ofFraction negative (digits * Nat.pow 10 exponent.toNat) 1
    else ofFraction negative digits (Nat.pow 10 (-exponent).toNat)

def ofNat (n : Nat) : Binary64 := ofDecimal false n 0

def isZero : Binary64 → Bool
  | .finite _ m _ => m == 0
  | _ => false

/-- The whole number nearest to the value, halves away from zero. Negative values give zero, large
ones `limit`, and what is no number gives zero. -/
def roundToNat (limit : Nat) : Binary64 → Nat
  | .notANumber => 0
  | .infinite negative => if negative then 0 else limit
  | .finite negative m e =>
    if negative then 0
    else
      let n :=
        if e ≥ 0 then m * Nat.pow 2 e.toNat
        else (2 * m + Nat.pow 2 (-e).toNat) / Nat.pow 2 ((-e).toNat + 1)
      min n limit

/-- The reals that round to a number: twice its distances to the ends, over a common unit, and
whether the ends belong to it. -/
structure Neighbourhood where
  value : Nat
  low : Nat
  high : Nat
  den : Nat
  closed : Bool

def neighbourhood (m : Nat) (e : Int) : Neighbourhood :=
  let below := if m = Nat.pow 2 52 ∧ e > leastExponent then 4 * m - 1 else 4 * m - 2
  let (scale, den) :=
    if e ≥ 2 then (Nat.pow 2 (e - 2).toNat, 1) else (1, Nat.pow 2 (2 - e).toNat)
  ⟨4 * m * scale, below * scale, (4 * m + 2) * scale, den, m % 2 == 0⟩

def Neighbourhood.holds (h : Neighbourhood) (digits : Nat) (place : Int) : Bool :=
  let (n, d) :=
    if place ≥ 0 then (digits * Nat.pow 10 place.toNat, 1) else (digits, Nat.pow 10 (-place).toNat)
  let x := n * h.den
  let low := h.low * d
  let high := h.high * d
  if h.closed then low ≤ x && x ≤ high else low < x && x < high

def Neighbourhood.around (h : Neighbourhood) (place : Int) : List Nat :=
  let (n, d) :=
    if place ≥ 0 then (h.value, h.den * Nat.pow 10 place.toNat)
    else (h.value * Nat.pow 10 (-place).toNat, h.den)
  let f := n / d
  if 2 * (n % d) ≤ d then [f, f + 1] else [f + 1, f]

def shortestFrom (h : Neighbourhood) (place : Int) : Nat → Nat × Int
  | 0 => (((h.around place).headD 0), place)
  | fuel + 1 =>
    match (h.around place).find? (h.holds · place) with
    | some digits => (digits, place)
    | none => shortestFrom h (place - 1) fuel

def shortest (m : Nat) (e : Int) : Nat × Int :=
  let h := neighbourhood m e
  let top : Int := (Decimal.digits (h.value / h.den)).length
  let low : Int := if h.value < h.den then (Decimal.digits (h.den / h.value)).length else 0
  shortestFrom h (top - low + 1) 30

def positional (digits : Nat) (place : Int) : List Char :=
  let ds := Decimal.digits digits
  if place ≥ 0 then ds ++ List.replicate place.toNat '0'
  else
    let behind := (-place).toNat
    let ds := List.replicate (behind + 1 - ds.length) '0' ++ ds
    let front := ds.take (ds.length - behind)
    let back := (((ds.drop (ds.length - behind)).reverse.dropWhile (· == '0')).reverse)
    if back.isEmpty then front else front ++ '.' :: back

def text : Binary64 → String
  | .notANumber => "NaN"
  | .infinite negative => if negative then "-inf" else "inf"
  | .finite negative m e =>
    let sign := if negative then ['-'] else []
    if m = 0 then String.ofList (sign ++ ['0'])
    else
      let (digits, place) := shortest m e
      String.ofList (sign ++ positional digits place)

end Binary64

end IsolatedSite
