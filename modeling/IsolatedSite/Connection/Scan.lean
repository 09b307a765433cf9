import IsolatedSite.Connection.Fault
import IsolatedSite.Headers
import IsolatedSite.Request.Basic

namespace IsolatedSite

inductive Scan (α : Type) where
  | more
  | fault (cause : HeadFault)
  | done (value : α) (rest : Bytes)
  deriving DecidableEq

def Scanner (α : Type) : Type := Bytes → Scan α

namespace Scanner

instance : Monad Scanner where
  pure a := fun bs => .done a bs
  bind p f := fun bs =>
    match p bs with
    | .more => .more
    | .fault cause => .fault cause
    | .done a rest => f a rest

def fail {α : Type} (cause : HeadFault) : Scanner α := fun _ => .fault cause

def space : UInt8 := 0x20
def tab : UInt8 := 0x09
def lineFeed : UInt8 := 0x0A
def carriageReturn : UInt8 := 0x0D
def colon : UInt8 := 0x3A

def next : Scanner UInt8
  | [] => .more
  | b :: rest => .done b rest

def expect (b : UInt8) (cause : HeadFault) : Scanner Unit := do
  let c ← next
  if c = b then pure () else fail cause

/-- The end of a line is a line feed with or without a carriage return in front. -/
def lineEnd : Scanner Unit := do
  let b ← next
  if b = carriageReturn then expect lineFeed .field
  else if b = lineFeed then pure ()
  else fail .field

def run (class? : UInt8 → Bool) : Scanner Bytes := fun bs =>
  match bs.dropWhile class? with
  | [] => .more
  | rest => .done (bs.takeWhile class?) rest

def emptyLines : Scanner Unit
  | [] => .more
  | b :: rest =>
    if b = lineFeed then emptyLines rest
    else if b = carriageReturn then
      match rest with
      | [] => .more
      | c :: rest => if c = lineFeed then emptyLines rest else .fault .field
    else .done () (b :: rest)

def word (class? : UInt8 → Bool) (cause : HeadFault) : Scanner Bytes := do
  let w ← run class?
  let b ← next
  if b = space ∧ w ≠ [] then pure w else fail cause

def isTargetByte (b : UInt8) : Bool := (0x21 ≤ b && b ≤ 0x7E) || 0x80 ≤ b

def version10 : Bytes := Utf8.octets "HTTP/1.0"
def version11 : Bytes := Utf8.octets "HTTP/1.1"

def versionStem : Bytes := Utf8.octets "HTTP/1."

def version : Scanner Version := fun bs =>
  if bs.length < version11.length then
    if bs.isPrefixOf versionStem then .more else .fault .version
  else if version10.isPrefixOf bs then .done .v10 (bs.drop version10.length)
  else if version11.isPrefixOf bs then .done .v11 (bs.drop version11.length)
  else .fault .version

def isBlank (b : UInt8) : Bool := b == space || b == tab

def trimmed (bs : Bytes) : Bytes :=
  ((bs.dropWhile isBlank).reverse.dropWhile isBlank).reverse

structure RawField where
  name : Bytes
  value : Bytes
  deriving DecidableEq, Repr

def isFieldByte (b : UInt8) : Bool := b == tab || isTargetByte b || b == space

def field : Scanner RawField := do
  let name ← run isTokenByte
  if name = [] then fail .field
  else
    expect colon .field
    let value ← run isFieldByte
    lineEnd
    pure ⟨name, trimmed value⟩

def maxFields : Nat := 100

/-- Fields up to the empty line that ends the head. Each takes some octets, so that their number is
bounded by that of the octets. -/
def fields : Nat → List RawField → Scanner (List RawField)
  | 0, _ => fun _ => .more
  | fuel + 1, before => fun bs =>
    match bs with
    | [] => .more
    | b :: _ =>
      if b = carriageReturn ∨ b = lineFeed then
        (do lineEnd; pure before.reverse : Scanner (List RawField)) bs
      else
        match field bs with
        | .more => .more
        | .fault cause => .fault cause
        | .done f rest =>
          if before.length = maxFields then .fault .tooLarge else fields fuel (f :: before) rest

end Scanner

structure RawHead where
  method : Bytes
  target : Bytes
  version : Version
  fields : List Scanner.RawField
  deriving DecidableEq, Repr

namespace RawHead

open Scanner

def scan : Scanner RawHead := do
  emptyLines
  let method ← word isTokenByte .method
  let target ← word isTargetByte .target
  if (Utf8.text? target).isNone then fail .target
  else
    let version ← Scanner.version
    lineEnd
    let fields ← fun bs => Scanner.fields (bs.length + 1) [] bs
    pure ⟨method, target, version, fields⟩

end RawHead

end IsolatedSite
