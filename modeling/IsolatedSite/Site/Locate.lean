import IsolatedSite.MediaType
import IsolatedSite.Site.Confine
import IsolatedSite.Site.Notice

namespace IsolatedSite

structure Site where
  root : Bytes
  types : MediaTypes
  serverName : String
  deriving DecidableEq, Repr

/-- What to answer with. A file keeps the path it was asked for by, which decides its type. -/
inductive Found where
  | file (requested : Bytes) (place : Spot)
  | needsSlash (place : Spot)
  | listing (place : Spot)
  deriving DecidableEq

structure Denial where
  refusal : Refusal
  notices : List Notice
  deriving DecidableEq

namespace Site

def indexNames : List Bytes := [Utf8.octets "index.html", Utf8.octets "index.htm"]

def contentAt (t : FileTree) (place : Spot) : Except Refusal Content :=
  match t.node? place.node with
  | some n => .ok n.content
  | none => .error (.ofFault .noEntry)

def indexFile? (t : FileTree) (root candidate : Bytes) : List Bytes → Option (Bytes × Spot)
  | [] => none
  | name :: names =>
    let path := Path.push candidate name
    match confine t root path with
    | .ok place =>
      match contentAt t place with
      | .ok (.file _) => some (path, place)
      | _ => indexFile? t root candidate names
    | .error _ => indexFile? t root candidate names

def endsInSlash (path : String) : Bool := path.toList.getLast? == some '/'

def resolveNotices (path : String) : Refusal → List Notice
  | .forbidden => [.traversalBlocked path]
  | _ => []

def confineNotices (root : Bytes) (path : String) : Refusal → List Notice
  | .forbidden => [.escapesRoot path]
  | .rootUnavailable fault => [.rootUnavailable root fault]
  | _ => []

def foundAt (t : FileTree) (root : Bytes) (path : String) (candidate : Bytes) (place : Spot) :
    Except Refusal Found :=
  match contentAt t place with
  | .error refusal => .error refusal
  | .ok (.directory _) =>
    if !endsInSlash path then .ok (.needsSlash place)
    else
      match indexFile? t root candidate indexNames with
      | some (requested, place) => .ok (.file requested place)
      | none => .ok (.listing place)
  | .ok _ => if endsInSlash path then .error .notFound else .ok (.file candidate place)

def locate (t : FileTree) (root : Bytes) (path : String) : Except Denial Found :=
  match resolve root path with
  | .error refusal => .error ⟨refusal, resolveNotices path refusal⟩
  | .ok candidate =>
    match confine t root candidate with
    | .error refusal => .error ⟨refusal, confineNotices root path refusal⟩
    | .ok place =>
      match foundAt t root path candidate place with
      | .error refusal => .error ⟨refusal, []⟩
      | .ok found => .ok found

end Site

end IsolatedSite
