import IsolatedSite.FileTree.Walk
import IsolatedSite.Percent
import IsolatedSite.Site.Refusal

namespace IsolatedSite.Site

def pushSegments (base : Bytes) : List Bytes → Except Refusal Bytes
  | [] => .ok base
  | segment :: rest =>
    if !Path.isNamed segment then pushSegments base rest
    else if segment = Path.upName then .error .forbidden
    else pushSegments (Path.push base segment) rest

/-- The path below `root` that a request path asks for. It is decoded once, so an encoded slash
divides segments and an encoded percent sign stays one. -/
def resolve (root : Bytes) (path : String) : Except Refusal Bytes :=
  let decoded := Percent.decode (Utf8.octets path)
  match Utf8.decode? decoded with
  | none => .error .badRequest
  | some _ => pushSegments root (splitOn Path.slash decoded)

/-- The place of a candidate, if it is the root or below it. Names are compared whole, so that
`site2` is not below `site`. -/
def confine (t : FileTree) (root candidate : Bytes) : Except Refusal Spot :=
  match t.canonical root with
  | .error fault => .error (.rootUnavailable fault)
  | .ok top =>
    match t.canonical candidate with
    | .error fault => .error (.ofFault fault)
    | .ok spot => if spot.isUnder top then .ok spot else .error .forbidden

end IsolatedSite.Site
