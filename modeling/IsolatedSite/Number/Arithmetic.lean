import IsolatedSite.Number.Binary64

namespace IsolatedSite.Binary64

def nearest (negative : Bool) (num den : Nat) (exponent : Int) : Binary64 :=
  if num = 0 then .finite negative 0 0
  else
    let (num, den) := scaled num den (-exponent)
    ofFraction negative num den

def isNegative : Binary64 → Bool
  | .finite negative _ _ => negative
  | .infinite negative => negative
  | .notANumber => false

def mul : Binary64 → Binary64 → Binary64
  | .finite s m e, .finite t n f => nearest (s != t) (m * n) 1 (e + f)
  | .notANumber, _ => .notANumber
  | _, .notANumber => .notANumber
  | x, y => if x.isZero || y.isZero then .notANumber else .infinite (x.isNegative != y.isNegative)

def div : Binary64 → Binary64 → Binary64
  | .finite s m e, .finite t n f =>
    if n = 0 then if m = 0 then .notANumber else .infinite (s != t)
    else nearest (s != t) m n (e - f)
  | .finite s _ _, .infinite t => .finite (s != t) 0 0
  | .infinite s, .finite t _ _ => .infinite (s != t)
  | _, _ => .notANumber

def signed (negative : Bool) (n : Nat) : Int := if negative then -n else n

def inUnits (unit : Int) (negative : Bool) (m : Nat) (e : Int) : Int :=
  signed negative (m * Nat.pow 2 (e - unit).toNat)

def add : Binary64 → Binary64 → Binary64
  | .finite s m e, .finite t n f =>
    let unit := min e f
    let total := inUnits unit s m e + inUnits unit t n f
    if total = 0 then .finite (s && t) 0 0 else nearest (total < 0) total.natAbs 1 unit
  | .notANumber, _ => .notANumber
  | _, .notANumber => .notANumber
  | .infinite s, .infinite t => if s = t then .infinite s else .notANumber
  | .infinite s, _ => .infinite s
  | _, .infinite t => .infinite t

def less : Binary64 → Binary64 → Bool
  | .finite s m e, .finite t n f =>
    let unit := min e f
    inUnits unit s m e < inUnits unit t n f
  | _, _ => false

def negate : Binary64 → Binary64
  | .finite negative m e => .finite (!negative) m e
  | .infinite negative => .infinite (!negative)
  | .notANumber => .notANumber

def powerOfTen (k : Nat) : Binary64 := ofDecimal false 1 k

end IsolatedSite.Binary64
