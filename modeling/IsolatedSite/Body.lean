import IsolatedSite.FileTree.Basic

namespace IsolatedSite

structure Stream where
  remaining : Nat
  chunk : Nat
  deriving DecidableEq, Repr

inductive Frame where
  | data (octets : Bytes)
  | failed (fault : Fault)
  deriving DecidableEq, Repr

namespace Stream

def chunkLimit : Nat := 65536

def ofLength (length : Nat) : Stream := ⟨length, max (min length chunkLimit) 1⟩

def truncated : Fault := .noted .unexpectedEof "file truncated while streaming"

def want (s : Stream) : Nat := min s.remaining s.chunk

/-- The next frame, given what a read of at most `want` octets returned. -/
def poll (s : Stream) (read : Bytes) : Option Frame × Stream :=
  if s.remaining = 0 then (none, s)
  else if read.isEmpty then (some (.failed truncated), { s with remaining := 0 })
  else (some (.data read), { s with remaining := s.remaining - read.length })

def isEnd (s : Stream) : Bool := s.remaining == 0

end Stream

structure FileStream where
  file : NodeId
  offset : Nat
  stream : Stream
  deriving DecidableEq, Repr

namespace FileStream

def ofLength (file : NodeId) (length : Nat) : FileStream := ⟨file, 0, .ofLength length⟩

def poll (s : FileStream) (t : FileTree) : Option Frame × FileStream :=
  let read := t.readAt s.file s.offset s.stream.want
  let (frame, stream) := s.stream.poll read
  (frame, { s with offset := s.offset + read.length, stream := stream })

def frames (t : FileTree) : Nat → FileStream → List Frame
  | 0, _ => []
  | fuel + 1, s =>
    match s.poll t with
    | (none, _) => []
    | (some frame, s) => frame :: frames t fuel s

end FileStream

inductive Body where
  | held (octets : Bytes)
  | streamed (source : FileStream)
  deriving DecidableEq, Repr

namespace Body

def empty : Body := .held []

def ofText (s : String) : Body := .held (Utf8.octets s)

def size : Body → Nat
  | .held octets => octets.length
  | .streamed source => source.stream.remaining

/-- All frames of the body. Every frame but the last shortens what remains, so that one more than
the announced size are enough. -/
def frames (t : FileTree) : Body → List Frame
  | .held octets => if octets.isEmpty then [] else [.data octets]
  | .streamed source => source.frames t (source.stream.remaining + 1)

end Body

namespace Frame

def octets : Frame → Bytes
  | .data octets => octets
  | .failed _ => []

def fault? : Frame → Option Fault
  | .data _ => none
  | .failed fault => some fault

end Frame

structure Transfer where
  octets : Bytes
  fault : Option Fault
  deriving DecidableEq, Repr

namespace Body

def transfer (t : FileTree) (b : Body) : Transfer :=
  let frames := b.frames t
  ⟨(frames.map Frame.octets).flatten, frames.findSome? Frame.fault?⟩

end Body

end IsolatedSite
