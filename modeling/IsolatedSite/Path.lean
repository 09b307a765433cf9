import IsolatedSite.Fault.Basic
import IsolatedSite.Text.Split
import IsolatedSite.Text.Utf8

namespace IsolatedSite.Path

def slash : UInt8 := 0x2F

def dot : UInt8 := 0x2E

def hereName : Bytes := [dot]

def upName : Bytes := [dot, dot]

def isAbsolute (p : Bytes) : Bool := p.head? == some slash

def endsInSlash (p : Bytes) : Bool := p.getLast? == some slash

def push (base name : Bytes) : Bytes :=
  if base.isEmpty || endsInSlash base then base ++ name else base ++ slash :: name

def join (base p : Bytes) : Bytes := if isAbsolute p then p else push base p

def isNamed (segment : Bytes) : Bool := !segment.isEmpty && segment != hereName

def names (p : Bytes) : List Bytes := (splitOn slash p).filter isNamed

def fileName? (p : Bytes) : Option Bytes :=
  match (names p).getLast? with
  | some name => if name = upName then none else some name
  | none => none

/-- What follows the last dot of the file name. A dot in front does not count. -/
def extension? (p : Bytes) : Option Bytes :=
  match (fileName? p).bind (splitLast? dot) with
  | some (stem, ext) => if stem.isEmpty then none else some ext
  | none => none

/-- Trailing slashes and dot segments, given backwards. A dot that begins the path stays. -/
def dropIdleRev : Bytes → Bytes
  | [] => []
  | a :: rest =>
    if a = slash then
      if rest.isEmpty then [a] else dropIdleRev rest
    else
      match rest with
      | b :: more => if a = dot ∧ b = slash then dropIdleRev (b :: more) else a :: rest
      | [] => a :: rest

def trimmed (p : Bytes) : Bytes := (dropIdleRev p.reverse).reverse

def parent? (p : Bytes) : Option Bytes :=
  let p := trimmed p
  if p.isEmpty || p = [slash] then none
  else
    match splitLast? slash p with
    | none => some []
    | some ([], _) => some [slash]
    | some (above, _) => some (trimmed (above ++ [slash]))

def ancestry : Nat → Bytes → List Bytes
  | 0, _ => []
  | fuel + 1, p =>
    if p.isEmpty then []
    else
      match parent? p with
      | none => [p]
      | some above => p :: ancestry fuel above

def emptyPath : Fault := .noted .invalidInput "cannot make an empty path absolute"

/-- Exactly two slashes in front keep their place; more of them are one. -/
def hasDoubleRoot (p : Bytes) : Bool := p.take 2 == [slash, slash] && p.take 3 != [slash, slash, slash]

/-- The absolute path with the same names, read from the directory `here`. A slash at the end is
kept, because it asks for a directory. -/
def absolute (here p : Bytes) : Except Fault Bytes :=
  if p.isEmpty then .error emptyPath
  else
    let base :=
      if hasDoubleRoot p then [slash, slash]
      else if isAbsolute p then [slash]
      else here
    let whole := (names p).foldl push base
    .ok (if endsInSlash p then push whole [] else whole)

end IsolatedSite.Path
