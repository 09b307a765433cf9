import IsolatedSite.Settings.Value
import IsolatedSite.Text.Split

namespace IsolatedSite

inductive KeyStep where
  | name (key : String)
  | position (index : Int)
  deriving DecidableEq, Repr

structure KeyPath where
  first : String
  steps : List KeyStep
  deriving DecidableEq, Repr

namespace KeyPath

def isNameChar (c : Char) : Bool := c.isAlphanum || c == ' ' || c == '_' || c == '-'

def splitName? (cs : List Char) : Option (String × List Char) :=
  let name := cs.takeWhile isNameChar
  if name.isEmpty then none else some (String.ofList name, cs.drop name.length)

def isGap (c : Char) : Bool := c == ' ' || c == '\t'

def readIndex? (cs : List Char) : Option Int :=
  let inner := ((cs.dropWhile isGap).reverse.dropWhile isGap).reverse
  let index? :=
    match inner with
    | '-' :: ds => (Decimal.read? ds).map fun n => -(n : Int)
    | ds => (Decimal.read? ds).map fun n => (n : Int)
  index?.filter fun n => decide (Datum.leastInt ≤ n ∧ n ≤ Datum.greatestInt)

def readSteps? : Nat → List Char → Option (List KeyStep)
  | _, [] => some []
  | 0, _ => none
  | fuel + 1, '.' :: rest =>
    match splitName? rest with
    | none => none
    | some (name, rest) => (readSteps? fuel rest).map (.name name :: ·)
  | fuel + 1, '[' :: rest =>
    match splitFirst ']' rest with
    | (inside, some rest) =>
      match readIndex? inside with
      | none => none
      | some index => (readSteps? fuel rest).map (.position index :: ·)
    | _ => none
  | _, _ => none

def parse? (key : String) : Option KeyPath :=
  match splitName? key.toList with
  | none => none
  | some (first, rest) => (readSteps? rest.length rest).map (⟨first, ·⟩)

def ofText (key : String) : KeyPath := (parse? key).getD ⟨key, []⟩

def lengthLimit : Nat := Nat.pow 2 26

/-- Negative positions count from the end and have to lie in the list. -/
def place? (index : Int) (length : Nat) : Option Nat :=
  if index < 0 then
    if index.natAbs ≤ length then some (length - index.natAbs) else none
  else if index.toNat < lengthLimit then some index.toNat
  else none

/-- Changes one item of a list, which is filled up with nothing as far as needed. -/
def alterItem (items : List Value) (index : Int) (change : Value → Option Value) :
    Option (List Value) := do
  let i ← place? index items.length
  let filled := items ++ List.replicate (i + 1 - items.length) .nothing
  let item ← change (filled[i]?.getD .nothing)
  return filled.set i item

def alter (change : Value → Value) : List KeyStep → Value → Option Value
  | [], v => some (change v)
  | .name key :: steps, v => do
    let inner ← alter change steps ((v.lookup? key).getD .nothing)
    return v.put key inner
  | .position index :: steps, v => do
    let items ← alterItem v.asList.1 index (alter change steps)
    return .list items v.asList.2

/-- Sets the value that a path leads to, if there can be one. The last name is merged, those before
it are taken as they are written. -/
def set? (p : KeyPath) (root value : Value) : Option Value :=
  match p.steps.getLast? with
  | none => some (root.merge p.first value)
  | some (.name key) =>
    alter (fun v => v.merge key value) (.name p.first :: p.steps.dropLast) root
  | some (.position _) => alter (fun _ => value) (.name p.first :: p.steps) root

end KeyPath

abbrev Layer := List (String × Value)

namespace Layer

def over? (layer : Layer) (root : Value) : Option Value :=
  layer.foldlM (fun root e => (KeyPath.ofText e.1).set? root e.2) root

def stack? (layers : List Layer) : Option Layer :=
  (layers.foldlM (fun root (layer : Layer) => layer.over? root) Value.emptyTable).map (·.asTable.1)

end Layer

end IsolatedSite
