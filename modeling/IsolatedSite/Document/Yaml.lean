import IsolatedSite.Document.Yaml.Scan
import IsolatedSite.Document.Yaml.Tree

namespace IsolatedSite.Yaml

abbrev Result := Except DocumentFault

def key : Node → Result String
  | .text s => .ok s
  | .int n => .ok (Decimal.signedText n)
  | _ => .error .unusableKey

/-- The spellings of infinity that are special to YAML are refused as values. -/
def real (s : String) : Result Datum :=
  match Binary64.ofText? s.toList with
  | some x => .ok (.real x)
  | none => .error .malformed

mutual

def datum : Node → Result Datum
  | .null => .ok .nil
  | .broken => .ok .nil
  | .bool b => .ok (.bool b)
  | .int n => .ok (.int n)
  | .real s => real s
  | .text s => .ok (.text s)
  | .list items => return .list (← data items)
  | .table entries => return .table (← entryData [] entries)

def data : List Node → Result (List Datum)
  | [] => .ok []
  | n :: ns => return (← datum n) :: (← data ns)

def entryData (out : List (String × Datum)) : List (Node × Node) → Result (List (String × Datum))
  | [] => .ok out
  | (k, n) :: rest => do
    let k ← key k
    let d ← datum n
    entryData (Datum.put k d out) rest

end

def document (cs : List Char) : Result (List (String × Datum)) :=
  match (tokens? cs).bind root? with
  | none => .error .malformed
  | some none => .ok []
  | some (some n) => do
    match (← datum n).entries? with
    | some entries => return entries
    | none => .error .malformed

end IsolatedSite.Yaml
