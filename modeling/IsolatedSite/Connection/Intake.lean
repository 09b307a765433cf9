import IsolatedSite.Text.Utf8

namespace IsolatedSite

structure Intake where
  /-- Taken in and not used up. -/
  buffer : Bytes := []
  /-- Arrived and not taken in. -/
  arrived : Bytes := []
  /-- Nothing comes after what has arrived. -/
  ended : Bool := false
  /-- As many octets as are taken in at once. -/
  piece : Nat := 8192
  /-- The last piece was much smaller than it might have been. -/
  slack : Bool := false
  deriving DecidableEq, Repr

namespace Intake

def leastPiece : Nat := 8192
def greatestPiece : Nat := 8192 + 4096 * 100

/-- Pieces grow when one is full, and shrink when two in a row are less than half full. -/
def resize (i : Intake) (taken : Nat) : Intake :=
  let half := Nat.pow 2 (i.piece.log2 - 1)
  if i.piece ≤ taken then { i with piece := min (2 * i.piece) greatestPiece, slack := false }
  else if half ≤ taken then { i with slack := false }
  else if i.slack then { i with piece := max half leastPiece, slack := false }
  else { i with slack := true }

def fill (i : Intake) : Intake :=
  let taken := i.arrived.take i.piece
  { i with buffer := i.buffer ++ taken, arrived := i.arrived.drop i.piece }.resize taken.length

def refill (i : Intake) : Intake := if i.buffer.isEmpty && !i.arrived.isEmpty then i.fill else i

def use (i : Intake) (n : Nat) : Intake := { i with buffer := i.buffer.drop n }

def size (i : Intake) : Nat := i.buffer.length + i.arrived.length

def isOver (i : Intake) : Bool := i.ended && i.buffer.isEmpty && i.arrived.isEmpty

end Intake

end IsolatedSite
