import IsolatedSite.Calendar.Moment
import IsolatedSite.Text.Split

namespace IsolatedSite.Toml

def field? (count low high : Nat) (cs : List Char) : Option Nat :=
  if cs.length = count then (Decimal.read? cs).filter fun n => low ≤ n && n ≤ high else none

def isOnCalendar (d : Date) : Bool := Date.ofDays d.toDays == d

def date? (cs : List Char) : Option (List Char) :=
  match splitOn '-' cs with
  | [y, m, d] =>
    match field? 4 0 9999 y, field? 2 1 12 m, field? 2 1 31 d with
    | some year, some month, some day => if isOnCalendar ⟨year, month, day⟩ then some cs else none
    | _, _, _ => none
  | _ => none

def shortFraction (ds : List Char) : List Char :=
  let kept := ((ds.take 9).reverse.dropWhile (· == '0')).reverse
  if kept.isEmpty then [] else '.' :: kept

/-- A minute may have a leap second. -/
def time? (cs : List Char) : Option (List Char) :=
  let (clock, fraction) := splitFirst '.' cs
  if fraction.all fun f => !f.isEmpty && f.all Decimal.isDigit then
    match splitOn ':' clock with
    | [h, m, s] =>
      match field? 2 0 23 h, field? 2 0 59 m, field? 2 0 60 s with
      | some _, some _, some _ => some (clock ++ (fraction.map shortFraction).getD [])
      | _, _, _ => none
    | _ => none
  else none

/-- The distance from universal time. It has no sign of its own when it is nought. -/
def offset? (cs : List Char) : Option (List Char) :=
  match cs with
  | [] => some []
  | ['Z'] => some ['Z']
  | ['z'] => some ['Z']
  | sign :: rest =>
    if sign = '+' ∨ sign = '-' then
      match (splitOn ':' rest).map (field? 2 0 59) with
      | [some hours, some minutes] =>
        if hours > 23 then none
        else if hours = 0 ∧ minutes = 0 then some ('+' :: rest)
        else some cs
      | _ => none
    else none

def isClockChar (c : Char) : Bool := Decimal.isDigit c || c == ':' || c == '.'

def dateAndTime? (date time : List Char) : Option (List Char) :=
  let clock := time.takeWhile isClockChar
  match date? date, time? clock, offset? (time.drop clock.length) with
  | some date, some clock, some offset => some (date ++ 'T' :: clock ++ offset)
  | _, _, _ => none

def dateTime? (cs : List Char) : Option String :=
  let text? :=
    match splitFirst 'T' (cs.map fun c => if c == 't' || c == ' ' then 'T' else c) with
    | (alone, none) => (date? alone).or (time? alone)
    | (date, some time) => dateAndTime? date time
  text?.map String.ofList

end IsolatedSite.Toml
