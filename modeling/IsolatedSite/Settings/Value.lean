import IsolatedSite.Document.Datum
import IsolatedSite.Text.Lowercase

namespace IsolatedSite

inductive Scalar where
  | nil
  | bool (value : Bool)
  | int (value : Int)
  | real (value : Binary64)
  | text (value : String)
  deriving DecidableEq, Repr

/-- A value and the place it comes from. Values that the program sets itself come from nowhere. -/
inductive Value where
  | scalar (value : Scalar) (origin : Option String)
  | list (items : List Value) (origin : Option String)
  | table (entries : List (String × Value)) (origin : Option String)

namespace Value

def text (s : String) : Value := .scalar (.text s) none

def nat (n : Nat) : Value := .scalar (.int n) none

def bool (b : Bool) : Value := .scalar (.bool b) none

def nothing : Value := .scalar .nil none

def emptyTable : Value := .table [] none

mutual

def ofDatum (origin : Option String) : Datum → Value
  | .nil => .scalar .nil origin
  | .bool b => .scalar (.bool b) origin
  | .int n => .scalar (.int n) origin
  | .real x => .scalar (.real x) origin
  | .text s => .scalar (.text s) origin
  | .list items => .list (ofItems origin items) origin
  | .table entries => .table (ofEntries origin entries) origin

def ofItems (origin : Option String) : List Datum → List Value
  | [] => []
  | d :: ds => ofDatum origin d :: ofItems origin ds

def ofEntries (origin : Option String) : List (String × Datum) → List (String × Value)
  | [] => []
  | (key, d) :: ds => (key, ofDatum origin d) :: ofEntries origin ds

end

/-- The entries of a table; anything else counts as an empty table that comes from nowhere. -/
def asTable : Value → List (String × Value) × Option String
  | .table entries origin => (entries, origin)
  | _ => ([], none)

def asList : Value → List Value × Option String
  | .list items origin => (items, origin)
  | _ => ([], none)

def lookup? (v : Value) (key : String) : Option Value := v.asTable.1.lookup key

def put (v : Value) (key : String) (value : Value) : Value :=
  .table (Datum.put key value v.asTable.1) v.asTable.2

mutual

def merge (root : Value) (key : String) : Value → Value
  | .table entries _ =>
    let key := Text.lowercase key
    root.put key (mergeEntries ((root.lookup? key).getD emptyTable) entries)
  | value => root.put (Text.lowercase key) value

def mergeEntries (target : Value) : List (String × Value) → Value
  | [] => target
  | (key, value) :: rest => mergeEntries (target.merge key value) rest

end

end Value

end IsolatedSite
