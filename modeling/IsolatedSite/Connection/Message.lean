import IsolatedSite.Connection.Fault
import IsolatedSite.Request.Basic
import IsolatedSite.Response

namespace IsolatedSite

structure Message where
  version : Version
  status : Status
  headers : Headers
  body : Bytes
  deriving DecidableEq

namespace Message

/-- The older version ends a connection unless the answer says otherwise, the newer one goes on
with it unless the answer says otherwise. -/
def persistence : Version → Bool → Option String
  | .v10, true => some "keep-alive"
  | .v10, false => none
  | _, true => none
  | _, false => some "close"

def withPersistence (h : Headers) (v : Version) (keepAlive : Bool) : Headers :=
  match persistence v keepAlive with
  | some word => h.insert "connection" (Utf8.octets word)
  | none => h

def mayHaveLength (s : Status) : Bool := s != .noContent

/-- Adds the length of a body that does not state it. The body of an answer without one may have had
any length. -/
def withLength (r : Response) (isHead : Bool) : Headers :=
  if (r.headers.get? "content-length").isSome || isHead || !mayHaveLength r.status then r.headers
  else r.headers.insert "content-length" (Utf8.octets (Decimal.text r.body.size))

def ofResponse (date : String) (req : Request) (keepAlive : Bool) (r : Response) (body : Bytes) :
    Message :=
  { version := req.version
    status := r.status
    headers :=
      (withPersistence (withLength r req.isHead) req.version keepAlive).insert "date"
        (Utf8.octets date)
    body := if req.isHead then [] else body }

def refusal (date : String) (v : Version) (status : Status) : Message :=
  { version := v
    status := status
    headers :=
      ((withPersistence .empty v false).insert "content-length" (Utf8.octets "0")).insert "date"
        (Utf8.octets date)
    body := [] }

def statusLine (m : Message) : String :=
  "HTTP/" ++ m.version.label ++ " " ++ Decimal.text m.status.code ++ " " ++
    m.status.reason?.getD "<none>"

def lineEnd : Bytes := [0x0D, 0x0A]

def octets (m : Message) : Bytes :=
  Utf8.octets m.statusLine ++ lineEnd ++
    (m.headers.toList.map fun (name, value) =>
      Utf8.octets name ++ Utf8.octets ": " ++ value ++ lineEnd).flatten ++
    lineEnd ++ m.body

end Message

end IsolatedSite
