import IsolatedSite.Text.Utf8

namespace IsolatedSite

def isTokenByte (b : UInt8) : Bool :=
  (0x30 ≤ b && b ≤ 0x39) || (0x41 ≤ b && b ≤ 0x5A) || (0x61 ≤ b && b ≤ 0x7A) ||
    [0x21, 0x23, 0x24, 0x25, 0x26, 0x27, 0x2A, 0x2B, 0x2D, 0x2E, 0x5E, 0x5F, 0x60, 0x7C, 0x7E].contains b

def isToken (bs : Bytes) : Bool := !bs.isEmpty && bs.all isTokenByte

def asciiText (bs : Bytes) : String := String.ofList (bs.map fun b => Char.ofNat b.toNat)

namespace Header

/-- Field names are tokens and do not distinguish case; they are kept in lower case. -/
def name? (bs : Bytes) : Option String :=
  if isToken bs ∧ bs.length ≤ 65535 then
    some (String.ofList (bs.map fun b => (Char.ofNat b.toNat).toLower))
  else none

def isValueByte (b : UInt8) : Bool := b == 9 || (0x20 ≤ b && b != 0x7F)

/-- A value holds no control octet but the tab. -/
def isValue (bs : Bytes) : Bool := bs.all isValueByte

def visible? (bs : Bytes) : Option String :=
  if bs.all (fun b => b == 9 || (0x20 ≤ b && b ≤ 0x7E)) then some (asciiText bs) else none

end Header

structure Field where
  name : String
  first : Bytes
  more : List Bytes
  deriving DecidableEq, Repr

namespace Field

def values (f : Field) : List Bytes := f.first :: f.more

def push (f : Field) (value : Bytes) : Field := { f with more := f.more ++ [value] }

def ofPair (e : String × Bytes) : Field := ⟨e.1, e.2, []⟩

end Field

structure Headers where
  fields : List Field
  distinct : (fields.map Field.name).Nodup
  deriving DecidableEq, Repr

namespace Headers

def empty : Headers := ⟨[], List.nodup_nil⟩

def values (h : Headers) (name : String) : List Bytes :=
  match h.fields.find? (·.name == name) with
  | some f => f.values
  | none => []

def get? (h : Headers) (name : String) : Option Bytes := (h.values name).head?

def place (new : Field) (change : Field → Field) : List Field → List Field
  | [] => [new]
  | f :: fs =>
    if f.name = new.name then { change f with name := new.name } :: fs else f :: place new change fs

theorem map_name_place (new : Field) (change : Field → Field) (fields : List Field) :
    (place new change fields).map Field.name =
      if new.name ∈ fields.map Field.name then fields.map Field.name
      else fields.map Field.name ++ [new.name] := by
  induction fields with
  | nil => simp [place]
  | cons f fields ih =>
      by_cases hf : f.name = new.name
      · simp [place, hf]
      · have hne : new.name ≠ f.name := Ne.symm hf
        rw [place, if_neg hf, List.map_cons, ih]
        by_cases hmem : new.name ∈ fields.map Field.name <;> simp [hmem, hne]

theorem nodup_place (new : Field) (change : Field → Field) {fields : List Field}
    (hd : (fields.map Field.name).Nodup) : ((place new change fields).map Field.name).Nodup := by
  rw [map_name_place]
  split
  · exact hd
  · next hnot =>
      exact (List.perm_append_singleton _ _).nodup_iff.2 (List.nodup_cons.2 ⟨hnot, hd⟩)

def append (h : Headers) (name : String) (value : Bytes) : Headers :=
  ⟨place ⟨name, value, []⟩ (·.push value) h.fields, nodup_place _ _ h.distinct⟩

/-- Makes the value the only one of its name. A name that is present keeps its place. -/
def insert (h : Headers) (name : String) (value : Bytes) : Headers :=
  ⟨place ⟨name, value, []⟩ (fun _ => ⟨name, value, []⟩) h.fields, nodup_place _ _ h.distinct⟩

def toList (h : Headers) : List (String × Bytes) :=
  h.fields.flatMap fun f => f.values.map fun v => (f.name, v)

end Headers

end IsolatedSite
