import IsolatedSite.Settings.Basic
import IsolatedSite.Settings.Fault
import IsolatedSite.Settings.Value

namespace IsolatedSite

def decimalInt (n : Int) : String :=
  String.ofList ((if n < 0 then ['-'] else []) ++ Decimal.digits n.natAbs)

namespace Scalar

def trueWords : List String := ["true", "on", "yes"]

def falseWords : List String := ["false", "off", "no"]

def shown : Scalar → String
  | .nil => "unit value"
  | .bool b => "boolean \x60" ++ (if b then "true" else "false") ++ "\x60"
  | .int n => "64-bit integer \x60" ++ decimalInt n ++ "\x60"
  | .real x => "floating point \x60" ++ x.text ++ "\x60"
  | .text s => "string " ++ Text.quoted s

/-- A decimal number with an optional plus sign, within 64 bits. -/
def natOfText? (s : String) : Option Nat :=
  let ds :=
    match s.toList with
    | '+' :: ds => ds
    | ds => ds
  (Decimal.read? ds).bind fun n => if n ≤ Datum.greatestNat then some n else none

end Scalar

namespace Value

def wrong {α : Type} (found wanted : String) (origin : Option String) : Reading α :=
  .error (.wrongType found wanted none origin)

def readText : Value → Reading String
  | .scalar (.text s) _ => .ok s
  | .scalar (.bool b) _ => .ok (if b then "true" else "false")
  | .scalar (.int n) _ => .ok (decimalInt n)
  | .scalar (.real x) _ => .ok x.text
  | .scalar .nil origin => wrong Scalar.nil.shown "a string" origin
  | .list _ origin => wrong "sequence" "a string" origin
  | .table _ origin => wrong "map" "a string" origin

def readNat : Value → Reading Nat
  | .scalar (.int n) origin =>
    if n < 0 then wrong (Scalar.int n).shown "an unsigned 64 bit or less integer" origin
    else .ok n.toNat
  | .scalar (.bool b) _ => .ok (if b then 1 else 0)
  | .scalar (.real x) _ => .ok (x.roundToNat Datum.greatestNat)
  | .scalar (.text s) origin =>
    let lower := Text.lowercase s
    if Scalar.trueWords.contains lower then .ok 1
    else if Scalar.falseWords.contains lower then .ok 0
    else
      match Scalar.natOfText? s with
      | some n => .ok n
      | none => wrong (Scalar.text s).shown "an integer" origin
  | .scalar .nil origin => wrong Scalar.nil.shown "an integer" origin
  | .list _ origin => wrong "sequence" "an integer" origin
  | .table _ origin => wrong "map" "an integer" origin

/-- A number of at most so many bits. The fault does not say where the number came from. -/
def readBounded (bits : Nat) (v : Value) : Reading Nat := do
  let n ← v.readNat
  if n < Nat.pow 2 bits then return n
  else
    wrong ("64-bit unsigned integer \x60" ++ Decimal.text n ++ "\x60")
      ("an unsigned " ++ Decimal.text bits ++ " bit integer") none

def readBool : Value → Reading Bool
  | .scalar (.bool b) _ => .ok b
  | .scalar (.int n) _ => .ok (n != 0)
  | .scalar (.real x) _ => .ok (!x.isZero)
  | .scalar (.text s) origin =>
    let lower := Text.lowercase s
    if lower = "1" ∨ Scalar.trueWords.contains lower then .ok true
    else if lower = "0" ∨ Scalar.falseWords.contains lower then .ok false
    else wrong (Scalar.text lower).shown "a boolean" origin
  | .scalar .nil origin => wrong Scalar.nil.shown "a boolean" origin
  | .list _ origin => wrong "sequence" "a boolean" origin
  | .table _ origin => wrong "map" "a boolean" origin

def readOption {α : Type} (read : Value → Reading α) : Value → Reading (Option α)
  | .scalar .nil _ => .ok none
  | v => (read v).map some

def shape : Value → String
  | .scalar (.int n) _ => "integer \x60" ++ decimalInt n ++ "\x60"
  | .scalar (.real x) _ =>
    "floating point \x60" ++ x.text ++ (if x.text.toList.contains '.' then "" else ".0") ++ "\x60"
  | .scalar s _ => s.shown
  | .list _ _ => "sequence"
  | .table _ _ => "map"

def readPairs : List (String × Value) → Reading (List (String × String))
  | [] => .ok []
  | (key, v) :: rest => do
    let s ← v.readText.mapError (SettingsFault.inside key)
    return (key, s) :: (← readPairs rest)

def readTexts : Value → Reading (List (String × String))
  | .table entries _ => readPairs entries
  | v => .error (.message ("invalid type: " ++ v.shape ++ ", expected a map"))

end Value

inductive Fields where
  | named (entries : List (String × Value))
  | listed (items : List Value) (description : String)

namespace Fields

def ofValue (name : String) (count : Nat) : Value → Reading Fields
  | .table entries _ => .ok (.named entries)
  | .list items _ =>
    .ok (.listed items ("struct " ++ name ++ " with " ++ Decimal.text count ++ " elements"))
  | v => .error (.message ("invalid type: " ++ v.shape ++ ", expected struct " ++ name))

def find? (f : Fields) (name : String) (position : Nat) : Option Value :=
  match f with
  | .named entries => entries.lookup name
  | .listed items _ => items[position]?

def locate (f : Fields) (name : String) (position : Nat) : SettingsFault → SettingsFault :=
  match f with
  | .named _ => SettingsFault.inside name
  | .listed _ _ => SettingsFault.atPosition position

def absent (f : Fields) (name : String) (position : Nat) : SettingsFault :=
  match f with
  | .named _ => .missing name
  | .listed _ description =>
    .message ("invalid length " ++ Decimal.text position ++ ", expected " ++ description)

def required {α : Type} (f : Fields) (name : String) (position : Nat) (read : Value → Reading α) :
    Reading α :=
  match f.find? name position with
  | some v => (read v).mapError (f.locate name position)
  | none => .error (f.absent name position)

def defaulted {α : Type} (f : Fields) (name : String) (position : Nat) (otherwise : α)
    (read : Value → Reading α) : Reading α :=
  match f.find? name position with
  | some v => (read v).mapError (f.locate name position)
  | none => .ok otherwise

/-- A field that a table may leave out but a list may not. -/
def listedOption {α : Type} (f : Fields) (name : String) (position : Nat) (read : Value → Reading α) :
    Reading (Option α) :=
  match f with
  | .named _ => f.defaulted name position none (Value.readOption read)
  | .listed _ _ => f.required name position (Value.readOption read)

end Fields

namespace Settings

def readServer (v : Value) : Reading ServerSettings := do
  let f ← Fields.ofValue "ServerConfig" 4 v
  let bind ← f.required "bind" 0 Value.readText
  let port ← f.required "port" 1 (Value.readBounded 16)
  let root ← f.required "root" 2 Value.readText
  let workers ← f.listedOption "workers" 3 Value.readNat
  return ⟨bind, port, root, workers⟩

def readLogging (v : Value) : Reading LogSettings := do
  let f ← Fields.ofValue "LoggingConfig" 5 v
  let level ← f.required "level" 0 Value.readText
  let accessLog ← f.required "access_log" 1 Value.readBool
  let format ← f.required "access_log_format" 2 Value.readText
  let accessFile ← f.defaulted "access_log_file" 3 none (Value.readOption Value.readText)
  let errorFile ← f.defaulted "error_log_file" 4 none (Value.readOption Value.readText)
  return ⟨level, accessLog, format, accessFile, errorFile⟩

def readPerformance (v : Value) : Reading PerformanceSettings := do
  let f ← Fields.ofValue "PerformanceConfig" 5 v
  let keepAlive ← f.required "keep_alive" 0 Value.readBool
  let backlog ← f.required "backlog" 1 (Value.readBounded 32)
  let limit ← f.defaulted "max_connections" 2 none (Value.readOption Value.readNat)
  let headTime ← f.defaulted "header_read_timeout" 3 none (Value.readOption Value.readNat)
  let time ← f.defaulted "connection_timeout" 4 none (Value.readOption Value.readNat)
  return ⟨keepAlive, backlog, limit, headTime, time⟩

def readHttp (v : Value) : Reading HttpSettings := do
  let f ← Fields.ofValue "HttpConfig" 2 v
  let serverName ← f.required "server_name" 0 Value.readText
  let types ← f.defaulted "mime_types" 1 [] Value.readTexts
  return ⟨serverName, types⟩

def readSection {α : Type} (root : Value) (name : String) (read : Value → Reading α) : Reading α :=
  match root.lookup? name with
  | some v => (read v).mapError (SettingsFault.inside name)
  | none => .error (.missing name)

def ofValue (root : Value) : Reading Settings := do
  let server ← readSection root "server" readServer
  let logging ← readSection root "logging" readLogging
  let performance ← readSection root "performance" readPerformance
  let http ← readSection root "http" readHttp
  return ⟨server, logging, performance, http⟩

end Settings

end IsolatedSite
