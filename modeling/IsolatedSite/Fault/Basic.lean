import IsolatedSite.Fault.Kind
import IsolatedSite.Fault.OsText
import IsolatedSite.Text.Decimal
import IsolatedSite.Text.Quoted

namespace IsolatedSite

/-- A fault is a number from the operating system, a bare kind, or a kind with a text of its own. -/
inductive Fault where
  | os (code : Int)
  | plain (kind : FaultKind)
  | noted (kind : FaultKind) (text : String)
  deriving DecidableEq, Repr

namespace Fault

def kind : Fault → FaultKind
  | .os code => .ofCode code
  | .plain kind => kind
  | .noted kind _ => kind

def message : Fault → String
  | .os code => osText code ++ " (os error " ++ Decimal.signedText code ++ ")"
  | .plain kind => kind.description
  | .noted _ text => text

def report : Fault → String
  | .os code =>
    "Os \x7b code: " ++ Decimal.signedText code ++ ", kind: " ++ (FaultKind.ofCode code).name ++
      ", message: " ++ Text.quoted (osText code) ++ " \x7d"
  | .plain kind => "Kind(" ++ kind.name ++ ")"
  | .noted kind text =>
    "Error \x7b kind: " ++ kind.name ++ ", message: " ++ Text.quoted text ++ " \x7d"

def noEntry : Fault := .os 2
def noDevice : Fault := .os 6
def denied : Fault := .os 13
def alreadyThere : Fault := .os 17
def notDirectory : Fault := .os 20
def isDirectory : Fault := .os 21
def invalidArgument : Fault := .os 22
def storageFull : Fault := .os 28
def nameTooLong : Fault := .os 36
def notEmpty : Fault := .os 39
def linkLoop : Fault := .os 40
def addressInUse : Fault := .os 98

/-- A path that holds a NUL octet is never handed to the operating system. -/
def nulInPath : Fault := .noted .invalidInput "file name contained an unexpected NUL byte"

end Fault

end IsolatedSite
