import IsolatedSite.Text.Blank
import IsolatedSite.Text.Terminal
import IsolatedSite.Text.Utf8

namespace IsolatedSite.Text

def trimEnd (cs : List Char) : List Char := (cs.reverse.dropWhile isBlank).reverse

def words : List Char → List (List Char)
  | [] => []
  | c :: cs =>
    match words cs with
    | [] => [[c]]
    | word :: rest =>
      if c = ' ' ∧ word.head? ≠ some ' ' then [c] :: word :: rest else (c :: word) :: rest

def linesOf : List Char → List (List Char)
  | [] => []
  | c :: cs =>
    match linesOf cs with
    | [] => [[c]]
    | line :: rest => if c = '\n' then [c] :: line :: rest else (c :: line) :: rest

def firstLine (cs : List Char) : List Char :=
  match (cs.takeWhile (· != '\n')).reverse with
  | '\r' :: before => before.reverse
  | line => line.reverse

/-- The number of columns of a text. A control character hides what follows up to an `m`. -/
def columnsFrom : Bool → List Char → Nat
  | _, [] => 0
  | hidden, c :: cs =>
    if isControl c then columnsFrom true cs
    else if hidden then columnsFrom (c != 'm') cs
    else columnsFrom false cs + 1

def columns (cs : List Char) : Nat := columnsFrom false cs

def octetCount (cs : List Char) : Nat := (Utf8.octets (String.ofList cs)).length

/-- The column that has been reached, and what broken lines start with once a line has begun. -/
structure Wrapping where
  column : Nat := 0
  margin : Option (List Char) := none
  deriving DecidableEq, Repr

namespace Wrapping

/-- Adds words behind those that are done, the last of which comes first. The first word of a line
stays where it is. -/
def putWords (limit : Nat) : Bool → Wrapping → List (List Char) → List (List Char) →
    List Char × Wrapping
  | _, w, done, [] => (done.reverse.flatten, w)
  | first, w, done, word :: rest =>
    let bare := trimEnd word
    let width := columns bare
    let advance := width + (octetCount word - octetCount bare)
    if first && width > 0 then
      putWords limit false { w with column := w.column + advance } (word :: done) rest
    else if limit < w.column + width then
      let margin := w.margin.getD []
      let before := (done.head?.map trimEnd).toList ++ done.tail
      putWords limit first { w with column := octetCount margin + advance }
        (word :: margin :: ['\n'] :: before) rest
    else putWords limit first { w with column := w.column + advance } (word :: done) rest

def putLine (limit : Nat) (w : Wrapping) (line : List Char) : List Char × Wrapping :=
  match w.margin, words line with
  | none, word :: rest =>
    let margin := if word.all isBlank then word else []
    putWords limit true { w with margin := some margin } [] (word :: rest)
  | _, ws => putWords limit false w [] ws

def putLines (limit : Nat) : Wrapping → List (List Char) → List Char × Wrapping
  | w, [] => ([], w)
  | w, [line] => putLine limit w line
  | w, line :: rest =>
    let more := putLines limit {} rest
    ((putLine limit w line).1 ++ more.1, more.2)

def putStretches (limit : Nat) : Wrapping → List (Bool × List Char) → List Char
  | _, [] => []
  | w, (true, part) :: parts =>
    let (text, w) := putLines limit w (linesOf part)
    text ++ putStretches limit w parts
  | w, (false, part) :: parts => part ++ putStretches limit w parts

end Wrapping

def wrap (limit : Nat) (cs : List Char) : List Char := Wrapping.putStretches limit {} (stretches cs)

def indent (margin cs : List Char) : List Char :=
  cs.flatMap fun c => if c = '\n' then c :: margin else [c]

end IsolatedSite.Text
