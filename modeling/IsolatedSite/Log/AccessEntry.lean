import IsolatedSite.Calendar.Stamp
import IsolatedSite.Json.Basic
import IsolatedSite.Text.Ascii

namespace IsolatedSite

structure AccessEntry where
  remoteAddress : String
  time : Stamp
  method : String
  path : String
  query : Option String
  httpVersion : String
  status : Nat
  bodyBytes : Nat
  referer : Option String
  userAgent : Option String
  micros : Nat
  deriving DecidableEq, Repr

inductive LineFormat where
  | common
  | combined
  | json
  deriving DecidableEq, Repr

namespace LineFormat

def default : LineFormat := .common

def name : LineFormat → String
  | .common => "common"
  | .combined => "combined"
  | .json => "json"

def ofName? (lower : String) : Option LineFormat :=
  match lower with
  | "common" => some .common
  | "combined" => some .combined
  | "json" => some .json
  | _ => none

def parse (s : String) : Except String LineFormat :=
  let lower := Text.asciiLower s
  match ofName? lower with
  | some f => .ok f
  | none =>
    .error ("Unknown access log format '" ++ lower ++ "' (expected common, combined or json)")

end LineFormat

namespace AccessEntry

def target (e : AccessEntry) : String :=
  match e.query with
  | some query => e.path ++ "?" ++ query
  | none => e.path

def commonLine (e : AccessEntry) : String :=
  e.remoteAddress ++ " - - [" ++ String.ofList e.time.common ++ "] \"" ++ e.method ++ " " ++
    e.target ++ " HTTP/" ++ e.httpVersion ++ "\" " ++ Decimal.text e.status ++ " " ++
    Decimal.text e.bodyBytes

def combinedLine (e : AccessEntry) : String :=
  e.commonLine ++ " \"" ++ e.referer.getD "-" ++ "\" \"" ++ e.userAgent.getD "-" ++ "\""

def toJson (e : AccessEntry) : Json :=
  .object [
    ("body_bytes", .natural e.bodyBytes),
    ("http_version", .string e.httpVersion),
    ("method", .string e.method),
    ("path", .string e.path),
    ("query", .ofText? e.query),
    ("referer", .ofText? e.referer),
    ("remote_addr", .string e.remoteAddress),
    ("request_time_us", .natural e.micros),
    ("status", .natural e.status),
    ("time", .string (String.ofList e.time.standard)),
    ("user_agent", .ofText? e.userAgent)]

def line (e : AccessEntry) : LineFormat → String
  | .common => e.commonLine
  | .combined => e.combinedLine
  | .json => String.ofList e.toJson.write

end AccessEntry

end IsolatedSite
