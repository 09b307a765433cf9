import IsolatedSite.Document.Ron.Word

namespace IsolatedSite.Ron

/-- What may be switched on at the head of a file. Only one of them matters to settings: a value
that is not marked as present is taken for present. -/
def isExtension (name : String) : Bool :=
  name == "unwrap_newtypes" || name == "implicit_some" || name == "unwrap_variant_newtypes"

def readExtensions : Nat → Rest → Option (List String × Rest)
  | 0, _ => none
  | fuel + 1, cs =>
    match readName cs with
    | none => none
    | some (name, rest) =>
      if !isExtension name then none
      else
        match skipAll rest with
        | ',' :: rest =>
          let rest := skipAll rest
          if rest.head?.any isNameChar then
            (readExtensions fuel rest).map fun r => (name :: r.1, r.2)
          else some ([name], rest)
        | rest => some ([name], rest)

def afterSigns : List String → Rest → Option Rest
  | [], cs => some cs
  | sign :: signs, cs =>
    if sign.toList.isPrefixOf cs then afterSigns signs (skipAll (cs.drop sign.length)) else none

def readHead : Nat → Rest → Option (List String × Rest)
  | 0, _ => none
  | fuel + 1, cs =>
    match skipAll cs with
    | '#' :: rest =>
      match (afterSigns ["#", "!", "[", "enable", "("] ('#' :: rest)).bind
        (readExtensions (rest.length + 1)) with
      | none => none
      | some (names, rest) =>
        match afterSigns [")", "]"] rest with
        | none => none
        | some rest => (readHead fuel rest).map fun r => (names ++ r.1, r.2)
    | rest => some ([], rest)

def startsField (cs : Rest) : Bool :=
  match readName (skipAll cs) with
  | some (_, rest) => (skipAll rest).head? == some ':'
  | none => false

/-- The fields of a map whose keys are quoted. A text goes before a character that looks like it. -/
def mapEntries (fields : List (Quoted × Datum)) : List (String × Datum) :=
  (fields.filter (·.1.single) ++ fields.filter (!·.1.single)).foldl
    (fun out f => Datum.put f.1.text f.2 out) []

def wordDatum? (word : String) : Option Datum :=
  if word = "true" then some (.bool true)
  else if word = "false" then some (.bool false)
  else if word = "None" then some .nil
  else if word = "inf" then some (.real (.infinite false))
  else if word = "NaN" then some (.real .notANumber)
  else none

mutual

/-- One value. `depth` bounds the nesting: a list, a record, a map or an optional value takes a step,
and so does each member. -/
def readValue (implicit : Bool) : Nat → Nat → Rest → Option (Datum × Rest)
  | 0, _, _ => none
  | fuel + 1, depth, cs =>
    let (word, rest) := splitWord cs
    let word := String.ofList word
    match wordDatum? word with
    | some d => some (d, rest)
    | none =>
      if word = "Some" then readSome implicit fuel depth (skipAll rest)
      else
        match cs with
        | '(' :: ')' :: rest => some (.nil, rest)
        | '(' :: rest => readRecord implicit fuel depth rest
        | '[' :: rest =>
          match depth with
          | 0 => none
          | depth + 1 => (readItems implicit ']' fuel depth rest).map fun r => (.list r.1, r.2)
        | '\x7b' :: rest =>
          match depth with
          | 0 => none
          | depth + 1 =>
            (readFields implicit fuel depth rest).map fun r => (.table (mapEntries r.1), r.2)
        | cs =>
          match readName cs with
          | some (_, rest) =>
            match skipAll rest with
            | '(' :: rest => readRecord implicit fuel depth rest
            | rest => some (.nil, rest)
          | none =>
            match readQuoted cs with
            | some (q, rest) => some (.text q.text, rest)
            | none => readNumber cs
termination_by structural fuel => fuel

def readSome (implicit : Bool) : Nat → Nat → Rest → Option (Datum × Rest)
  | 0, _, _ => none
  | fuel + 1, depth, cs =>
    match depth, cs with
    | 0, _ => none
    | depth + 1, '(' :: rest =>
      match readValue implicit fuel depth (skipAll rest) with
      | none => none
      | some (value, rest) =>
        match skipAll rest with
        | ')' :: rest => some (value, rest)
        | ',' :: rest =>
          match skipAll rest with
          | ')' :: rest => some (value, rest)
          | _ => none
        | _ => none
    | depth + 1, cs => if implicit then readValue implicit fuel depth cs else none
termination_by structural fuel => fuel

def readRecord (implicit : Bool) : Nat → Nat → Rest → Option (Datum × Rest)
  | 0, _, _ => none
  | fuel + 1, depth, cs =>
    match depth with
    | 0 => none
    | depth + 1 =>
      if startsField cs then
        (readNamed implicit fuel depth [] cs).map fun r => (.table r.1, r.2)
      else (readItems implicit ')' fuel depth cs).map fun r => (.list r.1, r.2)
termination_by structural fuel => fuel

def readNamed (implicit : Bool) :
    Nat → Nat → List (String × Datum) → Rest → Option (List (String × Datum) × Rest)
  | 0, _, _, _ => none
  | fuel + 1, depth, entries, cs =>
    match skipAll cs, depth with
    | ')' :: rest, _ => some (entries, rest)
    | _, 0 => none
    | cs, below + 1 =>
      match readName cs with
      | none => none
      | some (name, rest) =>
        match skipAll rest with
        | ':' :: rest =>
          match readValue implicit fuel below (skipAll rest) with
          | none => none
          | some (value, rest) =>
            match skipAll rest with
            | ',' :: rest => readNamed implicit fuel depth (Datum.put name value entries) rest
            | ')' :: rest => some (Datum.put name value entries, rest)
            | _ => none
        | _ => none
termination_by structural fuel => fuel

def readFields (implicit : Bool) : Nat → Nat → Rest → Option (List (Quoted × Datum) × Rest)
  | 0, _, _ => none
  | fuel + 1, depth, cs =>
    match skipAll cs, depth with
    | '\x7d' :: rest, _ => some ([], rest)
    | _, 0 => none
    | cs, below + 1 =>
      match readQuoted cs with
      | none => none
      | some (key, rest) =>
        match skipAll rest with
        | ':' :: rest =>
          match readValue implicit fuel below (skipAll rest) with
          | none => none
          | some (value, rest) =>
            match skipAll rest with
            | ',' :: rest =>
              (readFields implicit fuel depth rest).map fun r => ((key, value) :: r.1, r.2)
            | '\x7d' :: rest => some ([(key, value)], rest)
            | _ => none
        | _ => none
termination_by structural fuel => fuel

def readItems (implicit : Bool) (stop : Char) : Nat → Nat → Rest → Option (List Datum × Rest)
  | 0, _, _ => none
  | fuel + 1, depth, cs =>
    match skipAll cs, depth with
    | [], _ => none
    | c :: rest, depth =>
      if c = stop then some ([], rest)
      else
        match depth with
        | 0 => none
        | below + 1 =>
          match readValue implicit fuel below (c :: rest) with
          | none => none
          | some (item, rest) =>
            match skipAll rest with
            | ',' :: rest => (readItems implicit stop fuel depth rest).map fun r => (item :: r.1, r.2)
            | c :: rest => if c = stop then some ([item], rest) else none
            | [] => none
termination_by structural fuel => fuel

end

def depthLimit : Nat := 128

def document? (cs : List Char) : Option (List (String × Datum)) :=
  match readHead (cs.length + 1) cs with
  | none => none
  | some (extensions, rest) =>
    match readValue (extensions.contains "implicit_some") (3 * rest.length + 3) depthLimit rest with
    | some (value, rest) => if (skipAll rest).isEmpty then value.entries? else none
    | none => none

end IsolatedSite.Ron
