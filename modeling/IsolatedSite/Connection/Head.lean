import IsolatedSite.Connection.Payload
import IsolatedSite.Connection.Scan
import IsolatedSite.Text.Ascii
import IsolatedSite.Text.Decimal

namespace IsolatedSite

structure Head where
  request : Request
  framing : Framing
  /-- The client waits to be told before it sends the payload. -/
  waiting : Bool
  keepAlive : Bool
  deriving DecidableEq, Repr

namespace Head

def members (value : Bytes) : List String :=
  match Header.visible? value with
  | none => []
  | some s =>
    (splitOn ',' s.toList).map fun part =>
      Text.asciiLower (String.ofList
        ((part.dropWhile Char.isWhitespace).reverse.dropWhile Char.isWhitespace).reverse)

structure Draft where
  headers : Headers := .empty
  /-- Words about the connection. -/
  closes : Bool := false
  keeps : Bool := false
  length : Option Nat := none
  hasLength : Bool := false
  /-- Whether chunks are the last transfer coding, once a coding has been named. -/
  chunked : Option Bool := none
  waiting : Bool := false
  deriving DecidableEq, Repr

def contentLength? (value : Bytes) : Option Nat :=
  (Decimal.read? (value.map fun b => Char.ofNat b.toNat)).bind fun n =>
    if n < Nat.pow 2 64 then some n else none

/-- The two largest numbers stand for lengths that are not known. -/
def maxLength : Nat := Nat.pow 2 64 - 3

def Draft.add (d : Draft) (name : String) (value : Bytes) : Draft :=
  { d with headers := d.headers.append name value }

/-- Takes the field in. A length counts only once, and not at all after a transfer coding. -/
def Draft.step (v : Version) (d : Draft) (name : String) (value : Bytes) :
    Except HeadFault Draft :=
  if name = "transfer-encoding" then
    if v ≠ .v11 then .error .unexpectedTransferEncoding
    else .ok { d.add name value with chunked := some ((members value).getLast? == some "chunked") }
  else if name = "content-length" then
    let d := { d with hasLength := true }
    if d.chunked.isSome then .ok d
    else
      match contentLength? value, d.length with
      | none, _ => .error .contentLength
      | some n, some m => if n = m then .ok d else .error .contentLength
      | some n, none =>
        if n ≤ maxLength then .ok { d.add name value with length := some n } else .error .tooLarge
  else if name = "connection" then
    .ok { d.add name value with
      closes := d.closes || (members value).contains "close"
      keeps := d.keeps || (members value).contains "keep-alive" }
  else if name = "expect" then
    .ok { d.add name value with waiting := Text.asciiLower (Utf8.lossyText value) == "100-continue" }
  else .ok (d.add name value)

def Draft.framing (d : Draft) : Except HeadFault Framing :=
  match d.chunked, d.length with
  | some true, _ => .ok .chunked
  | some false, _ => .error .transferEncoding
  | none, some 0 => .ok .empty
  | none, some n => .ok (.sized n)
  | none, none => .ok .empty

/-- The older version has to ask for the connection to go on. A request whose payload is framed in two
ways is the last one whatever it asks for. -/
def Draft.keepAlive (v : Version) (d : Draft) : Bool :=
  !d.closes && (v == .v11 || d.keeps) && !(d.chunked.isSome && d.hasLength)

def draft (raw : RawHead) : Except HeadFault Draft :=
  raw.fields.foldlM (fun d f =>
    match Header.name? f.name with
    | some name => d.step raw.version name f.value
    | none => .error .tooLarge) {}

def ofRaw (raw : RawHead) : Except HeadFault Head := do
  if raw.target.length > 65534 then throw .targetTooLong
  let some method := Method.ofOctets? raw.method | throw .method
  let target ← (Target.parse raw.target).mapError fun _ => .target
  let d ← draft raw
  let framing ← d.framing
  return ⟨⟨method, target, raw.version, d.headers⟩, framing, d.waiting && raw.version == .v11,
    d.keepAlive raw.version⟩

def parse : Scanner Head := do
  let raw ← RawHead.scan
  match ofRaw raw with
  | .ok head => pure head
  | .error cause => Scanner.fail cause

end Head

end IsolatedSite
