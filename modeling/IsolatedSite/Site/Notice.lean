import IsolatedSite.Log.Level
import IsolatedSite.Request.Basic
import IsolatedSite.Site.Refusal
import IsolatedSite.Text.Utf8

namespace IsolatedSite

inductive Notice where
  | methodNotAllowed (method : Method)
  | traversalBlocked (path : String)
  | escapesRoot (path : String)
  | rootUnavailable (root : Bytes) (fault : Fault)
  | openFailed (path : Bytes) (fault : Fault)
  | listFailed (path : Bytes) (fault : Fault)
  | unbuildable (status : Status)
  | refused (method : Method) (path : String) (refusal : Refusal)
  deriving DecidableEq

namespace Notice

def level : Notice → Level
  | .methodNotAllowed _ => .warn
  | .traversalBlocked _ => .warn
  | .escapesRoot _ => .warn
  | .rootUnavailable _ _ => .error
  | .openFailed _ _ => .error
  | .listFailed _ _ => .error
  | .unbuildable _ => .error
  | .refused _ _ _ => .debug

def message : Notice → String
  | .methodNotAllowed method => "Method not allowed: " ++ method.name
  | .traversalBlocked path => "Path traversal attempt blocked: " ++ path
  | .escapesRoot path => "Path escapes root through a symlink: " ++ path
  | .rootUnavailable root fault =>
    "Root directory '" ++ Utf8.lossyText root ++ "' is unavailable: " ++ fault.message
  | .openFailed path fault =>
    "Failed to open file '" ++ Utf8.lossyText path ++ "': " ++ fault.message
  | .listFailed path fault =>
    "Failed to list directory '" ++ Utf8.lossyText path ++ "': " ++ fault.message
  | .unbuildable status =>
    "Failed to build " ++ Decimal.text status.code ++ " response: failed to parse header value"
  | .refused method path refusal => method.name ++ " " ++ path ++ " -> " ++ refusal.detail

end Notice

end IsolatedSite
