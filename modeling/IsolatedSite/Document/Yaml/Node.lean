import IsolatedSite.Document.Datum
import IsolatedSite.Number.Text
import IsolatedSite.Text.Hex

namespace IsolatedSite.Yaml

inductive Node where
  | null
  /-- A scalar that is not of the kind its tag says, or an alias of a node it stands in. -/
  | broken
  | bool (value : Bool)
  | int (value : Int)
  /-- A number with a fraction, as it is written. -/
  | real (text : String)
  | text (value : String)
  | list (items : List Node)
  | table (entries : List (Node × Node))

namespace Node

def isBroken : Node → Bool
  | .broken => true
  | _ => false

mutual

def same : Node → Node → Bool
  | .null, .null => true
  | .broken, .broken => true
  | .bool a, .bool b => a == b
  | .int a, .int b => a == b
  | .real a, .real b => a == b
  | .text a, .text b => a == b
  | .list as, .list bs => sameItems as bs
  | .table as, .table bs => sameEntries as bs
  | _, _ => false

def sameItems : List Node → List Node → Bool
  | [], [] => true
  | a :: as, b :: bs => same a b && sameItems as bs
  | _, _ => false

def sameEntries : List (Node × Node) → List (Node × Node) → Bool
  | [], [] => true
  | (k, a) :: as, (l, b) :: bs => same k l && same a b && sameEntries as bs
  | _, _ => false

end

def intIn? (base : Nat) (cs : List Char) : Option Int :=
  let (negative, ds) := Binary64.splitSign cs
  (Text.numberIn? base ds).bind fun n =>
    let value : Int := if negative then -n else n
    if Datum.leastInt ≤ value ∧ value ≤ Datum.greatestInt then some value else none

def markedInt? : List Char → Option Int
  | '0' :: 'x' :: ds => intIn? 16 ds
  | '0' :: 'o' :: ds => intIn? 8 ds
  | '+' :: ds => intIn? 10 ds
  | _ => none

def infinities : List String :=
  [".inf", ".Inf", ".INF", "+.inf", "+.Inf", "+.INF", "-.inf", "-.Inf", "-.INF"]

def isReal (s : String) : Bool :=
  infinities.contains s || [".nan", "NaN", ".NAN"].contains s ||
    (s.toList.any Char.isDigit && (Binary64.ofText? s.toList).isSome)

def ofPlain (s : String) : Node :=
  match markedInt? s.toList with
  | some n => .int n
  | none =>
    if s = "" ∨ s = "~" ∨ s = "null" then .null
    else if s = "true" then .bool true
    else if s = "false" then .bool false
    else
      match intIn? 10 s.toList with
      | some n => .int n
      | none => if isReal s then .real s else .text s

structure Tag where
  stem : String
  suffix : String

def coreStem : String := "tag:yaml.org,2002:"

def ofTagged (t : Tag) (s : String) : Node :=
  if t.stem ≠ coreStem then .text s
  else if t.suffix = "bool" then
    if s = "true" then .bool true else if s = "false" then .bool false else .broken
  else if t.suffix = "int" then ((intIn? 10 s.toList).map .int).getD .broken
  else if t.suffix = "float" then if isReal s then .real s else .broken
  else if t.suffix = "null" then if s = "~" ∨ s = "null" then .null else .broken
  else .text s

def ofScalar (plain : Bool) (tag : Option Tag) (s : String) : Node :=
  if plain then
    match tag with
    | some t => ofTagged t s
    | none => ofPlain s
  else .text s

/-- Keys and values by turns, added to the entries so far. A broken node in the place of a key is
passed over, a key without a value is dropped, and a key that is there already is refused. -/
def pairUp : List (Node × Node) → Option Node → List Node → Option (List (Node × Node))
  | entries, _, [] => some entries
  | entries, none, n :: ns => pairUp entries (if n.isBroken then none else some n) ns
  | entries, some key, n :: ns =>
    if entries.any fun e => key.same e.1 then none else pairUp (entries ++ [(key, n)]) none ns

def ofPairs? (ns : List Node) : Option Node := (pairUp [] none ns).map .table

end Node

end IsolatedSite.Yaml
