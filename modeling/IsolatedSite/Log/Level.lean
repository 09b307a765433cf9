import IsolatedSite.Text.Ascii

namespace IsolatedSite

inductive Level where
  | error
  | warn
  | info
  | debug
  deriving DecidableEq, Repr

namespace Level

def rank : Level → Nat
  | .error => 0
  | .warn => 1
  | .info => 2
  | .debug => 3

/-- Lines of level `l` are written when the log is set to `limit`. -/
def enabledAt (l limit : Level) : Bool := l.rank ≤ limit.rank

def name : Level → String
  | .error => "error"
  | .warn => "warn"
  | .info => "info"
  | .debug => "debug"

def ofName? (lower : String) : Option Level :=
  match lower with
  | "error" => some .error
  | "warn" => some .warn
  | "warning" => some .warn
  | "info" => some .info
  | "debug" => some .debug
  | "trace" => some .debug
  | _ => none

def parse (s : String) : Except String Level :=
  let lower := Text.asciiLower s
  match ofName? lower with
  | some l => .ok l
  | none => .error ("Unknown log level '" ++ lower ++ "' (expected error, warn, info or debug)")

def sorted (ls : List Level) : List Level := ls.mergeSort fun a b => decide (a.rank ≤ b.rank)

end Level

end IsolatedSite
