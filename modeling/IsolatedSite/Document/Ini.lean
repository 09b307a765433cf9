import IsolatedSite.Document.Datum
import IsolatedSite.Text.Blank
import IsolatedSite.Text.Hex

namespace IsolatedSite.Ini

abbrev Rest := List Char

def isLineEnd (c : Char) : Bool := c == '\n' || c == '\r'

def escaped? (c : Char) : Option (List Char) :=
  match c with
  | '0' => some [Char.ofNat 0]
  | 'a' => some [Char.ofNat 7]
  | 'b' => some [Char.ofNat 8]
  | 't' => some ['\t']
  | 'r' => some ['\r']
  | 'n' => some ['\n']
  | '\n' => some []
  | 'x' => none
  | c => some [c]

/-- The character numbered by the next four characters, of which the first may be a plus sign. -/
def readCode : Rest → Option (Char × Rest)
  | '+' :: rest => Text.readCode 3 rest
  | rest => Text.readCode 4 rest

/-- Characters up to one that ends them, escapes replaced. `atEnd` says whether the end of the file
will do as well. -/
def readUntil (stop : Char → Bool) (atEnd : Bool) : Nat → Rest → Option (List Char × Rest)
  | 0, _ => none
  | fuel + 1, cs =>
    match cs with
    | [] => if atEnd then some ([], []) else none
    | '\\' :: rest =>
      match rest with
      | [] => none
      | 'x' :: more =>
        match readCode more with
        | none => none
        | some (c, more) => (readUntil stop atEnd fuel more).map fun r => (c :: r.1, r.2)
      | c :: more =>
        match escaped? c with
        | none => none
        | some out => (readUntil stop atEnd fuel more).map fun r => (out ++ r.1, r.2)
    | c :: rest =>
      if stop c then some ([], c :: rest)
      else (readUntil stop atEnd fuel rest).map fun r => (c :: r.1, r.2)

def readLine (cs : Rest) : Option (List Char × Rest) := readUntil isLineEnd true (cs.length + 1) cs

def readQuoted (quote : Char) (cs : Rest) : Option (List Char × Rest) :=
  match readUntil (· == quote) false (cs.length + 1) cs with
  | some (inside, rest) => (readLine (rest.drop 1)).map fun r => (inside ++ r.1, r.2)
  | none => none

def readValue (cs : Rest) : Option (List Char × Rest) :=
  match cs.dropWhile (fun c => Text.isBlank c && !isLineEnd c) with
  | '"' :: rest => readQuoted '"' rest
  | '\'' :: rest => readQuoted '\'' rest
  | rest => readLine rest

abbrev Section := List (String × Datum)

structure Sections where
  general : Section := []
  named : List (String × Section) := []

def Sections.add (s : Sections) (key : String) (value : Datum) : Sections :=
  match s.named.getLast? with
  | none => { s with general := Datum.put key value s.general }
  | some (name, entries) =>
    { s with named := s.named.dropLast ++ [(name, Datum.put key value entries)] }

/-- Of sections with the same name the last one counts. -/
def Sections.toEntries (s : Sections) : List (String × Datum) :=
  s.named.foldl (fun out e => Datum.put e.1 (.table e.2) out) s.general

def trimmed (cs : List Char) : String := String.ofList (Text.trim cs)

def readAll : Nat → Bool → Sections → Rest → Option Sections
  | 0, _, _, _ => none
  | fuel + 1, fresh, s, cs =>
    match cs with
    | [] => some s
    | c :: rest =>
      if Text.isBlank c then readAll fuel (c == '\n') s rest
      else if c == ';' || c == '#' then
        if fresh then readAll fuel true s ((rest.dropWhile (· != '\n')).drop 1) else none
      else if c == '[' then
        match readUntil (· == ']') false (rest.length + 1) rest with
        | none => none
        | some (name, rest) =>
          readAll fuel false { s with named := s.named ++ [(trimmed name, [])] } (rest.drop 1)
      else
        match readUntil (fun c => c == '=' || c == ':') false (cs.length + 1) cs with
        | none => none
        | some (key, rest) =>
          if (Text.trim key).isEmpty then none
          else
            match readValue (rest.drop 1) with
            | none => none
            | some (value, rest) =>
              readAll fuel false (s.add (trimmed key) (.text (trimmed value))) rest

def document? (cs : List Char) : Option (List (String × Datum)) :=
  (readAll (cs.length + 1) true {} cs).map Sections.toEntries

end IsolatedSite.Ini
