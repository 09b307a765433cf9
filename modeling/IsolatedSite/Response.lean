import IsolatedSite.Body
import IsolatedSite.Headers
import IsolatedSite.Html
import IsolatedSite.Status

namespace IsolatedSite

structure Response where
  status : Status
  headers : Headers
  body : Body
  deriving DecidableEq

namespace Response

def allowedMethods : String := "GET, HEAD, OPTIONS"

def htmlType : String := "text/html; charset=utf-8"

def withHeader (r : Response) (name value : String) : Response :=
  { r with headers := r.headers.append name (Utf8.octets value) }

def bare (status : Status) : Response := ⟨status, .empty, .empty⟩

def errorPage (status : Status) (message : String) : String :=
  "<!DOCTYPE HTML>\n<html lang=\"en\">\n<head>\n<meta charset=\"utf-8\">\n" ++
  "<title>Error response</title>\n</head>\n<body>\n<h1>Error response</h1>\n<p>Error code: " ++
  Decimal.text status.code ++ "</p>\n<p>Message: " ++ Html.escapeText message ++
  ".</p>\n<p>Error code explanation: " ++ Decimal.text status.code ++ " - " ++
  status.reason?.getD "Unknown" ++ ".</p>\n</body>\n</html>\n"

def page (status : Status) (content : Bytes) (body : Body) : Response :=
  ((Response.mk status .empty body).withHeader "content-type" htmlType).withHeader
    "content-length" (Decimal.text content.length)

def error (status : Status) (message : String) : Response :=
  let content := Utf8.octets (errorPage status message)
  page status content (.held content)

def methodNotAllowed : Response :=
  let r := error .methodNotAllowed "Method not allowed"
  { r with headers := r.headers.insert "allow" (Utf8.octets allowedMethods) }

def options : Response := (bare .noContent).withHeader "allow" allowedMethods

/-- A redirect, unless the location cannot be written in a header. -/
def redirect? (location : String) : Option Response :=
  if Header.isValue (Utf8.octets location) then
    some (((bare .movedPermanently).withHeader "location" location).withHeader "content-length" "0")
  else none

def redirect (location : String) : Response :=
  (redirect? location).getD (error .internalServerError "Invalid redirect target")

def html (content : String) (isHead : Bool) : Response :=
  let content := Utf8.octets content
  page .ok content (if isHead then .empty else .held content)

def file? (body : Body) (type : String) (length : Nat) (modified : Option String) :
    Option Response :=
  if Header.isValue (Utf8.octets type) && modified.all (fun d => Header.isValue (Utf8.octets d)) then
    let r := ((Response.mk .ok .empty body).withHeader "content-type" type).withHeader
      "content-length" (Decimal.text length)
    some (match modified with
      | some date => r.withHeader "last-modified" date
      | none => r)
  else none

def file (body : Body) (type : String) (length : Nat) (modified : Option String) : Response :=
  (file? body type length modified).getD (bare .internalServerError)

/-- Names the server. A name that is no header value is passed over. -/
def named (r : Response) (name : String) : Response :=
  if Header.isValue (Utf8.octets name) then
    { r with headers := r.headers.insert "server" (Utf8.octets name) }
  else r

/-- Pages with these headers share no memory with pages of other origins and are never cached. -/
def isolation : List (String × String) :=
  [
    ("cross-origin-opener-policy", "same-origin"),
    ("cross-origin-embedder-policy", "require-corp"),
    ("cross-origin-resource-policy", "same-origin"),
    ("cache-control", "no-store")]

def isolated (r : Response) : Response :=
  { r with headers := isolation.foldl (fun h e => h.insert e.1 (Utf8.octets e.2)) r.headers }

end Response

end IsolatedSite
