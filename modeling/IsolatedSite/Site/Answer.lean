import IsolatedSite.Calendar.HttpDate
import IsolatedSite.Listing
import IsolatedSite.Response
import IsolatedSite.Site.Locate

namespace IsolatedSite

structure Reply where
  response : Response
  notices : List Notice
  deriving DecidableEq

inductive Outcome where
  | answered (reply : Reply)
  | crashed
  deriving DecidableEq

namespace Site

def slashed (target : Target) : String :=
  let path := String.ofList (target.path.toList.dropWhile (· == '/'))
  match target.query with
  | some query => "/" ++ path ++ "/?" ++ query
  | none => "/" ++ path ++ "/"

def redirectReply (target : Target) : Reply :=
  let location := slashed target
  match Response.redirect? location with
  | some r => ⟨r, []⟩
  | none => ⟨Response.redirect location, [.unbuildable .movedPermanently]⟩

def refuse (method : Method) (path : String) (denial : Denial) : Reply :=
  ⟨Response.error denial.refusal.status denial.refusal.message,
    denial.notices ++ [.refused method path denial.refusal]⟩

def displayPath (path : String) : String := (Percent.decodeText? path).getD path

def listingReply (t : FileTree) (req : Request) (place : Spot) : Reply :=
  match Listing.read t place with
  | .error fault => refuse req.method req.target.path ⟨.unreadable fault, [.listFailed place.path fault]⟩
  | .ok entries => ⟨Response.html (Listing.page (displayPath req.target.path) entries) req.isHead, []⟩

/-- The date is worked out before the file is opened. -/
def fileOutcome (t : FileTree) (site : Site) (req : Request) (requested : Bytes) (place : Spot) :
    Outcome :=
  match t.node? place.node with
  | none => .answered (refuse req.method req.target.path ⟨.notFound, []⟩)
  | some n =>
    match HttpDate.ofMoment? n.modified with
    | none => .crashed
    | some date =>
      match t.openForReading place.node with
      | .error fault =>
        .answered (refuse req.method req.target.path
          ⟨.ofFault fault, [.openFailed place.path fault]⟩)
      | .ok id =>
        let length := n.content.size
        let body := if req.isHead then .empty else .streamed (.ofLength id length)
        match Response.file? body (site.types.forPath requested) length (some date) with
        | some r => .answered ⟨r, []⟩
        | none => .answered ⟨.bare .internalServerError, [.unbuildable .ok]⟩

def serve (t : FileTree) (site : Site) (req : Request) : Outcome :=
  match locate t site.root req.target.path with
  | .error denial => .answered (refuse req.method req.target.path denial)
  | .ok (.needsSlash _) => .answered (redirectReply req.target)
  | .ok (.listing place) => .answered (listingReply t req place)
  | .ok (.file requested place) => fileOutcome t site req requested place

def needsTree (site : Site) (req : Request) : Bool :=
  (req.method == .get || req.method == .head) && (resolve site.root req.target.path).isOk

def dispatch (t : FileTree) (site : Site) (req : Request) : Outcome :=
  if req.method = .get ∨ req.method = .head then serve t site req
  else if req.method = .options then .answered ⟨Response.options, []⟩
  else .answered ⟨Response.methodNotAllowed, [.methodNotAllowed req.method]⟩

def answer (t : FileTree) (site : Site) (req : Request) : Outcome :=
  match dispatch t site req with
  | .crashed => .crashed
  | .answered reply => .answered { reply with response := reply.response.named site.serverName }

end Site

end IsolatedSite
