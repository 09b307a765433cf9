import IsolatedSite.Document.Datum
import IsolatedSite.Text.Quoted

namespace IsolatedSite

inductive SettingsFault where
  /-- The file cannot be found or opened. -/
  | noFile (text : String)
  /-- The file does not hold settings. -/
  | document (fault : DocumentFault)
  /-- A key leads to a position that a list cannot have. -/
  | noPlace
  /-- A value cannot be taken for what is wanted. -/
  | wrongType (found wanted : String) (key : Option String) (origin : Option String)
  | message (text : String)
  deriving DecidableEq, Repr

namespace SettingsFault

def text : SettingsFault → String
  | .noFile text => text
  | .document .malformed => "malformed file"
  | .document .unusableKey => "unusable key"
  | .noPlace => "no such position"
  | .message text => text
  | .wrongType found wanted key origin =>
    "invalid type: " ++ found ++ ", expected " ++ wanted ++
      (key.map fun k => " for key \x60" ++ k ++ "\x60").getD "" ++
      (origin.map (" in " ++ ·)).getD ""

def inside (name : String) : SettingsFault → SettingsFault
  | .wrongType found wanted key origin =>
    let key := key.getD ""
    let dot := if key.toList.head?.any (· != '[') then "." else ""
    .wrongType found wanted (some (name ++ dot ++ key)) origin
  | fault => fault

def atPosition (i : Nat) : SettingsFault → SettingsFault
  | .wrongType found wanted key origin =>
    .wrongType found wanted (some ("[" ++ Decimal.text i ++ "]" ++ key.getD "")) origin
  | fault => fault

def missing (field : String) : SettingsFault := .message ("missing field \x60" ++ field ++ "\x60")

end SettingsFault

abbrev Reading (α : Type) := Except SettingsFault α

end IsolatedSite
