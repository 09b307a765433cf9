import IsolatedSite.Log.AccessEntry
import IsolatedSite.Request.Basic
import IsolatedSite.Response

namespace IsolatedSite.Site

/-- The size is the one that the body announces, whether or not all of it is sent. -/
def accessEntry (peer : String) (time : Stamp) (micros : Nat) (req : Request) (r : Response) :
    AccessEntry :=
  { remoteAddress := peer
    time := time
    method := req.method.name
    path := req.target.path
    query := req.target.query
    httpVersion := req.version.label
    status := r.status.code
    bodyBytes := r.body.size
    referer := req.text? "referer"
    userAgent := req.text? "user-agent"
    micros := micros }

end IsolatedSite.Site
