import IsolatedSite.Document.Datum
import IsolatedSite.Json.Read
import IsolatedSite.Number.Arithmetic

namespace IsolatedSite.Json

structure Significand where
  digits : Nat
  exponent : Int

namespace Significand

def push? (s : Significand) (d : Char) : Option Nat :=
  let n := s.digits * 10 + Decimal.digitValue d
  if n ≤ Datum.greatestNat then some n else none

/-- Digits in front of the point that no longer fit count as zeros. -/
def addWhole (s : Significand) : List Char → Significand
  | [] => s
  | d :: ds =>
    match s.push? d with
    | some n => addWhole ⟨n, s.exponent⟩ ds
    | none => ⟨s.digits, s.exponent + ds.length + 1⟩

/-- Digits behind the point that no longer fit are dropped. -/
def addFraction (s : Significand) : List Char → Significand
  | [] => s
  | d :: ds =>
    match s.push? d with
    | some n => addFraction ⟨n, s.exponent - 1⟩ ds
    | none => s

end Significand

def largestPower : Nat := 308

def overPower (x : Binary64) (k : Nat) : Binary64 :=
  if k ≤ largestPower ∨ x.isZero then x.div (.powerOfTen (min k largestPower))
  else overPower (x.div (.powerOfTen largestPower)) (k - largestPower)
termination_by k
decreasing_by simp_all [largestPower]; omega

def Significand.toReal? (s : Significand) : Option Binary64 :=
  let x := Binary64.ofNat s.digits
  if s.exponent < 0 then some (overPower x s.exponent.natAbs)
  else if s.exponent ≤ largestPower then
    match x.mul (.powerOfTen s.exponent.toNat) with
    | .finite negative m e => some (.finite negative m e)
    | _ => none
  else if x.isZero then some x
  else none

def greatestExponent : Int := 2147483647

def realOf? (n : Numeral) : Option Binary64 :=
  let s := ((Significand.mk 0 0).addWhole n.whole).addFraction n.fraction
  let e := n.exponent.getD 0
  let x? :=
    if e.natAbs ≤ greatestExponent then Significand.toReal? ⟨s.digits, s.exponent + e⟩
    else if e < 0 ∨ s.digits = 0 then some (.finite false 0 0)
    else none
  x?.map fun x => if n.negative then x.negate else x

/-- Plain numerals are whole numbers as long as they fit, except for zero with a sign. -/
def numberToDatum? (n : Numeral) : Option Datum :=
  let size := Decimal.value n.whole
  if n.isPlain && !(n.negative && size == 0) then
    (Datum.ofInt? (if n.negative then -size else size)).or ((realOf? n).map .real)
  else (realOf? n).map .real

mutual

def toDatum? : Json → Option Datum
  | .null => some .nil
  | .bool b => some (.bool b)
  | .number n => numberToDatum? n
  | .string s => some (.text s)
  | .array items => (itemsToData? items).map .list
  | .object fields => (fieldsToData? fields).map .table

def itemsToData? : List Json → Option (List Datum)
  | [] => some []
  | item :: items =>
    match toDatum? item, itemsToData? items with
    | some d, some ds => some (d :: ds)
    | _, _ => none

/-- Later fields are set first, so that an earlier one with the same name does not replace them. -/
def fieldsToData? : List (String × Json) → Option (List (String × Datum))
  | [] => some []
  | (name, value) :: fields =>
    match toDatum? value, fieldsToData? fields with
    | some d, some ds => some (if (ds.lookup name).isSome then ds else (name, d) :: ds)
    | _, _ => none

end

def document? (cs : List Char) : Option (List (String × Datum)) :=
  ((parse cs).bind toDatum?).bind Datum.entries?

end IsolatedSite.Json
