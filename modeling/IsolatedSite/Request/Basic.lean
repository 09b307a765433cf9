import IsolatedSite.Headers
import IsolatedSite.Request.Target

namespace IsolatedSite

structure Method where
  name : String
  deriving DecidableEq, Repr

namespace Method

def get : Method := ⟨"GET"⟩
def head : Method := ⟨"HEAD"⟩
def options : Method := ⟨"OPTIONS"⟩

def ofOctets? (bs : Bytes) : Option Method := if isToken bs then some ⟨asciiText bs⟩ else none

end Method

inductive Version where
  | v09
  | v10
  | v11
  | v2
  | v3
  deriving DecidableEq, Repr

namespace Version

def label : Version → String
  | .v09 => "0.9"
  | .v10 => "1.0"
  | .v11 => "1.1"
  | .v2 => "2"
  | .v3 => "3"

end Version

structure Request where
  method : Method
  target : Target
  version : Version
  headers : Headers
  deriving DecidableEq, Repr

namespace Request

def isHead (r : Request) : Bool := r.method == .head

def text? (r : Request) (name : String) : Option String := (r.headers.get? name).bind Header.visible?

end Request

end IsolatedSite
