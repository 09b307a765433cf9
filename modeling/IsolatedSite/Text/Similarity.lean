import IsolatedSite.Number.Arithmetic

namespace IsolatedSite.Text

def claim (c : Char) (low high : Nat) : Nat → List (Char × Bool) → Option (List (Char × Bool))
  | _, [] => none
  | j, (d, taken) :: rest =>
    if low ≤ j ∧ j < high ∧ d = c ∧ !taken then some ((d, true) :: rest)
    else (claim c low high (j + 1) rest).map ((d, taken) :: ·)

def matchUp (reach : Nat) :
    Nat → List Char → List (Char × Bool) → List Char × List (Char × Bool)
  | _, [], places => ([], places)
  | i, c :: cs, places =>
    match claim c (i - reach) (i + reach + 1) 0 places with
    | some places =>
      let (found, places) := matchUp reach (i + 1) cs places
      (c :: found, places)
    | none => matchUp reach (i + 1) cs places

def shared (a b : List Char) : List Char × List Char :=
  let reach := max a.length b.length / 2 - 1
  let (found, places) := matchUp reach 0 a (b.map fun c => (c, false))
  (found, (places.filter (·.2)).map (·.1))

def ratio (m n : Nat) : Binary64 := (Binary64.ofNat m).div (.ofNat n)

def similarity (a b : List Char) : Binary64 :=
  let (inA, inB) := shared a b
  let count := inA.length
  let swaps := ((inA.zip inB).countP fun p => p.1 != p.2) / 2
  if a.isEmpty && b.isEmpty then .ofNat 1
  else if count = 0 then .ofNat 0
  else
    (((ratio count a.length).add (ratio count b.length)).add (ratio (count - swaps) count)).div
      (.ofNat 3)

end IsolatedSite.Text
