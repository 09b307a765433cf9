import IsolatedSite.Connection.Head

namespace IsolatedSite

structure Due where
  request : Request
  /-- Whether the answer promises that the connection goes on. -/
  keepAlive : Bool
  /-- Whether the payload has been passed over, so that there can be another request. -/
  readable : Bool
  deriving DecidableEq, Repr

structure Connection where
  intake : Intake := {}
  /-- How many octets were there when they were last found to be only part of a head. -/
  seen : Option Nat := none
  /-- The version of the last request. -/
  version : Version := .v11
  keepAlive : Bool
  due : Option Due := none
  deriving DecidableEq, Repr

namespace Connection

def hasHeadEnd : Bytes → Bool
  | [] => false
  | b :: rest =>
    [0x0D, 0x0A, 0x0D, 0x0A].isPrefixOf (b :: rest) || [0x0A, 0x0A].isPrefixOf (b :: rest) ||
      hasHeadEnd rest

/-- Whether it is worth while to read the octets. An end of a head may have begun with the last
three of those seen before. -/
def isPromising (c : Connection) : Bool :=
  match c.seen with
  | none => true
  | some n => hasHeadEnd (c.intake.buffer.drop (n - 3))

def headLimit : Nat := Intake.greatestPiece

def preface : Bytes := Utf8.octets "PRI * HTTP/2.0\r\n\r\nSM\r\n\r\n"

def isLineOctet (b : UInt8) : Bool := b == 0x0D || b == 0x0A

def withoutEmptyLines (bs : Bytes) : Bytes := bs.dropWhile isLineOctet

inductive Next where
  | wait (c : Connection)
  | request (head : Head) (c : Connection)
  | broken (cause : HeadFault)
  deriving DecidableEq

def waitFor (c : Connection) : Next :=
  let size := c.intake.buffer.length
  if headLimit ≤ size then .broken .tooLarge
  else .wait { c with seen := if size = 0 then none else some size }

def look (c : Connection) : Next :=
  let bs := c.intake.buffer
  if bs.isEmpty || !c.isPromising then waitFor c
  else
    match Head.parse bs with
    | .more => waitFor c
    | .fault cause =>
      .broken (if preface.isPrefixOf (withoutEmptyLines bs) then .otherProtocol else cause)
    | .done head rest =>
      .request head
        { intake := { c.intake with buffer := rest }
          seen := none
          version := head.request.version
          keepAlive := c.keepAlive && head.keepAlive }

/-- Takes in what has arrived until it amounts to something. Each piece takes in an octet at
least. -/
def next : Nat → Connection → Next
  | 0, c => .wait c
  | fuel + 1, c =>
    match c.look with
    | .wait c =>
      if c.intake.arrived.isEmpty then .wait c else next fuel { c with intake := c.intake.fill }
    | found => found

def receive (c : Connection) (octets : Bytes) : Connection :=
  { c with intake := { c.intake with arrived := c.intake.arrived ++ octets } }

/-- The request waits for its answer. The payload is passed over before it gets one. -/
def defer (c : Connection) (req : Request) (passage : Passage) : Connection :=
  match passage, passage.rest? with
  | _, some i => { c with intake := i, due := some ⟨req, c.keepAlive, true⟩ }
  | .broken, none => { c with due := some ⟨req, c.keepAlive, false⟩ }
  | _, none => { c with due := some ⟨req, false, false⟩ }

def afterAnswer (c : Connection) (passage : Passage) : Option Connection :=
  if c.keepAlive then passage.rest?.map fun i => { c with intake := i } else none

def isForsaken (c : Connection) (d : Due) : Bool := d.readable && c.intake.isOver

def isMidHead (c : Connection) : Bool := !(withoutEmptyLines c.intake.buffer).isEmpty

end Connection

end IsolatedSite
