import IsolatedSite.Connection.Intake
import IsolatedSite.Text.Hex

namespace IsolatedSite

inductive Framing where
  | empty
  | sized (length : Nat)
  | chunked
  deriving DecidableEq, Repr

/-- A place in a payload of chunks. A line feed is named for what it ends. -/
inductive ChunkPlace where
  | sizeStart
  | size (n : Nat)
  | sizeBlank (n : Nat)
  | extension (n : Nat)
  | sizeFeed (n : Nat)
  | data (left : Nat)
  | dataReturn
  | dataFeed
  | lineStart
  | trailer
  | trailerFeed
  | lastFeed
  deriving DecidableEq, Repr

structure Chunks where
  place : ChunkPlace := .sizeStart
  /-- Octets of extensions so far. -/
  extensions : Nat := 0
  trailerLines : Nat := 0
  trailerOctets : Nat := 0
  deriving DecidableEq, Repr

namespace Chunks

inductive Step where
  | next (c : Chunks)
  | done
  | broken
  deriving DecidableEq

def lineFeed : UInt8 := 0x0A
def carriageReturn : UInt8 := 0x0D
def semicolon : UInt8 := 0x3B

def isBlank (b : UInt8) : Bool := b == 0x20 || b == 0x09

def octetLimit : Nat := 16384

def maxTrailerLines : Nat := 100

def goTo (c : Chunks) (place : ChunkPlace) : Step := .next { c with place := place }

def expect (c : Chunks) (wanted b : UInt8) (place : ChunkPlace) : Step :=
  if b = wanted then c.goTo place else .broken

def digit (c : Chunks) (n d : Nat) : Step :=
  if n * 16 + d < Nat.pow 2 64 then c.goTo (.size (n * 16 + d)) else .broken

def afterSize (c : Chunks) (n : Nat) (b : UInt8) : Step :=
  if isBlank b then c.goTo (.sizeBlank n)
  else if b = semicolon then c.goTo (.extension n)
  else c.expect carriageReturn b (.sizeFeed n)

def inExtension (c : Chunks) (n : Nat) (b : UInt8) : Step :=
  if b = carriageReturn then c.goTo (.sizeFeed n)
  else if b = lineFeed || octetLimit ≤ c.extensions + 1 then .broken
  else .next { c with extensions := c.extensions + 1 }

def inTrailer (c : Chunks) (place : ChunkPlace) : Step :=
  .next { c with place := place, trailerOctets := c.trailerOctets + 1 }

def trailerEnd (c : Chunks) : Step :=
  if c.trailerLines < maxTrailerLines && c.trailerOctets + 1 < octetLimit then
    { c with trailerLines := c.trailerLines + 1 }.inTrailer .lineStart
  else .broken

/-- Takes one octet. Trailers end the payload no better than a fault does. -/
def step (c : Chunks) (b : UInt8) : Step :=
  let digit? := Text.hexValue? (Char.ofNat b.toNat)
  match c.place, digit? with
  | .sizeStart, some d => c.digit 0 d
  | .sizeStart, none => .broken
  | .size n, some d => c.digit n d
  | .size n, none => c.afterSize n b
  | .sizeBlank n, _ => c.afterSize n b
  | .extension n, _ => c.inExtension n b
  | .sizeFeed 0, _ => c.expect lineFeed b .lineStart
  | .sizeFeed n, _ => c.expect lineFeed b (.data n)
  | .data n, _ => c.goTo (if n ≤ 1 then .dataReturn else .data (n - 1))
  | .dataReturn, _ => c.expect carriageReturn b .dataFeed
  | .dataFeed, _ => c.expect lineFeed b .sizeStart
  | .lineStart, _ => if b = carriageReturn then c.goTo .lastFeed else c.inTrailer .trailer
  | .trailer, _ => c.inTrailer (if b = carriageReturn then .trailerFeed else .trailer)
  | .trailerFeed, _ => if b = lineFeed then c.trailerEnd else .broken
  | .lastFeed, _ => if b = lineFeed && c.trailerOctets == 0 then .done else .broken

end Chunks

inductive Payload where
  | sized (left : Nat)
  | chunked (c : Chunks)
  deriving DecidableEq, Repr

namespace Payload

/-- What one look at a payload brings: nothing yet, a part of it, the end of it, or the certainty
that there is no end after which the connection could go on. -/
inductive Look where
  | nothing
  | part (p : Payload) (i : Intake)
  | whole (i : Intake)
  | broken
  deriving DecidableEq

def lookAtSized (left : Nat) (i : Intake) : Look :=
  let i := i.refill
  if i.buffer.isEmpty then (if i.ended then .broken else .nothing)
  else if left ≤ i.buffer.length then .whole (i.use left)
  else .part (.sized (left - i.buffer.length)) { i with buffer := [] }

def lookAtChunks : Nat → Chunks → Intake → Look
  | 0, _, _ => .nothing
  | fuel + 1, c, i =>
    let i := i.refill
    match i.buffer, c.place with
    | [], _ => if i.ended then .broken else .nothing
    | bs, .data left =>
      .part (.chunked { c with
        place := if bs.length < left then .data (left - bs.length) else .dataReturn }) (i.use left)
    | b :: _, _ =>
      match c.step b with
      | .next c => lookAtChunks fuel c (i.use 1)
      | .done => .whole (i.use 1)
      | .broken => .broken

def look (i : Intake) : Payload → Look
  | .sized left => lookAtSized left i
  | .chunked c => lookAtChunks (i.size + 1) c i

end Payload

inductive Passage where
  | over (i : Intake)
  | begun (p : Payload) (i : Intake)
  | broken
  deriving DecidableEq

namespace Passage

/-- The first look. A client that waits to be told before it sends a payload is not told, and what
it has sent nevertheless is not looked at yet. -/
def start (framing : Framing) (waiting : Bool) (i : Intake) : Passage :=
  let first := fun (p : Payload) =>
    if waiting then .begun p i
    else
      match p.look i with
      | .nothing => .begun p i
      | .part p i => .begun p i
      | .whole i => .over i
      | .broken => .broken
  match framing with
  | .empty => .over i
  | .sized length => first (.sized length)
  | .chunked => first (.chunked {})

def rest? : Passage → Option Intake
  | .over i => some i
  | .begun p i =>
    match p.look i with
    | .whole i => some i
    | _ => none
  | .broken => none

def isForsaken : Passage → Bool
  | .over i => i.isOver
  | _ => false

end Passage

end IsolatedSite
