import IsolatedSite.Fault.Basic
import IsolatedSite.Status

namespace IsolatedSite

inductive Refusal where
  | badRequest
  | forbidden
  | notFound
  | rootUnavailable (fault : Fault)
  | unreadable (fault : Fault)
  deriving DecidableEq, Repr

namespace Refusal

def status : Refusal → Status
  | .badRequest => .badRequest
  | .forbidden => .forbidden
  | .notFound => .notFound
  | .rootUnavailable _ => .internalServerError
  | .unreadable _ => .internalServerError

def message : Refusal → String
  | .badRequest => "Bad request path"
  | .forbidden => "Path is outside the served directory"
  | .notFound => "File not found"
  | .rootUnavailable _ => "Served directory is unavailable"
  | .unreadable _ => "Unable to read file"

def detail : Refusal → String
  | .rootUnavailable fault => message (.rootUnavailable fault) ++ ": " ++ fault.message
  | .unreadable fault => message (.unreadable fault) ++ ": " ++ fault.message
  | r => r.message

/-- A path that leads nowhere is not found; any other fault is the server's. -/
def ofFault (fault : Fault) : Refusal :=
  match fault.kind with
  | .notFound => .notFound
  | .notADirectory => .notFound
  | .invalidInput => .notFound
  | _ => .unreadable fault

end Refusal

end IsolatedSite
