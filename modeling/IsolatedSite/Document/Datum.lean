import IsolatedSite.Number.Binary64

namespace IsolatedSite

inductive Datum where
  | nil
  | bool (value : Bool)
  | int (value : Int)
  | real (value : Binary64)
  | text (value : String)
  | list (items : List Datum)
  | table (entries : List (String × Datum))

inductive DocumentFault where
  | malformed
  /-- A key is neither a text nor a whole number. -/
  | unusableKey
  deriving DecidableEq, Repr

namespace Datum

def put {α : Type} (key : String) (value : α) : List (String × α) → List (String × α)
  | [] => [(key, value)]
  | (k, v) :: rest => if k = key then (k, value) :: rest else (k, v) :: put key value rest

def leastInt : Int := -9223372036854775808

def greatestInt : Int := 9223372036854775807

def greatestNat : Nat := 18446744073709551615

def ofReal? : Binary64 → Option Datum
  | .finite negative m e => some (.real (.finite negative m e))
  | _ => none

def ofInt? (n : Int) : Option Datum :=
  if leastInt ≤ n ∧ n ≤ greatestInt then some (.int n) else none

def entries? : Datum → Option (List (String × Datum))
  | .table entries => some entries
  | _ => none

end Datum

end IsolatedSite
