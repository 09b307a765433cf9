namespace IsolatedSite

structure Gate where
  limit : Option Nat
  count : Int := 0
  /-- The count that the arriving connection found, until it is let in or turned away. -/
  arriving : Option Int := none
  /-- Connections that are being served. -/
  live : Nat := 0
  deriving DecidableEq, Repr

namespace Gate

def start (limit : Option Nat) : Gate := { limit := limit }

def isFull (g : Gate) (found : Int) : Bool :=
  match g.limit with
  | none => false
  | some limit => (limit : Int) ≤ found

inductive Step where
  | arrive
  | refuse
  | accept
  | leave
  | lose
  deriving DecidableEq, Repr

/-- Makes a step if it is possible. A connection that is lost ends without lowering the count. -/
def step? (g : Gate) : Step → Option Gate
  | .arrive =>
    if g.arriving = none then some { g with count := g.count + 1, arriving := some g.count }
    else none
  | .refuse =>
    match g.arriving with
    | some found =>
      if g.isFull found then some { g with count := g.count - 1, arriving := none } else none
    | none => none
  | .accept =>
    match g.arriving with
    | some found =>
      if g.isFull found then none else some { g with arriving := none, live := g.live + 1 }
    | none => none
  | .leave =>
    if g.live = 0 then none else some { g with count := g.count - 1, live := g.live - 1 }
  | .lose => if g.live = 0 then none else some { g with live := g.live - 1 }

def step (g : Gate) (s : Step) : Gate := (g.step? s).getD g

end Gate

end IsolatedSite
