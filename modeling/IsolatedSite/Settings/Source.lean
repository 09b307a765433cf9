import IsolatedSite.CommandLine
import IsolatedSite.Document.Basic
import IsolatedSite.FileTree.Walk
import IsolatedSite.Settings.Fault
import IsolatedSite.Settings.KeyPath

namespace IsolatedSite

abbrev Environment := List (String × String)

namespace Environment

def find? (env : Environment) (name : String) : Option String := env.lookup name

def marker : String := "coi_serve_"

def afterMarker? (name : String) : Option (List Char) :=
  let lower := (Text.lowercase name).toList
  if marker.toList.isPrefixOf lower then some (lower.drop marker.length) else none

def dotted : List Char → List Char
  | '_' :: '_' :: rest => '.' :: dotted rest
  | c :: rest => c :: dotted rest
  | [] => []

def origin : String := "the environment"

def layer (env : Environment) : Layer :=
  env.filterMap fun (name, value) =>
    (afterMarker? name).map fun key =>
      (String.ofList (dotted key), .scalar (.text value) (some origin))

end Environment

namespace SettingsFile

def defaultName : Bytes := Utf8.octets "coi-serve"

def isFile (t : FileTree) (p : Bytes) : Bool :=
  match t.stat p with
  | .ok n => n.content.isFile
  | .error _ => false

def withExtension (p : Bytes) (ext : String) : Bytes := Path.trimmed p ++ Utf8.octets ("." ++ ext)

def extended? (t : FileTree) (p : Bytes) : Option (Bytes × DocumentFormat) :=
  if (Path.fileName? p).isNone then none
  else
    DocumentFormat.extensions.findSome? fun (ext, format) =>
      if isFile t (withExtension p ext) then some (withExtension p ext, format) else none

def candidates (here : Bytes) (config : Option String) : List Bytes :=
  let path := Path.join here ((config.map Utf8.octets).getD defaultName)
  path :: DocumentFormat.extensions.map fun e => withExtension path e.1

def find (t : FileTree) (here name : Bytes) : Reading (Bytes × DocumentFormat) :=
  let path := Path.join here name
  if isFile t path then
    match DocumentFormat.ofExtension? (Utf8.lossyText ((Path.extension? path).getD [])) with
    | some format => .ok (path, format)
    | none =>
      .error (.noFile ("configuration file \"" ++ Utf8.lossyText path ++
        "\" is not of a registered file format"))
  else
    match extended? t path with
    | some found => .ok found
    | none => .error (.noFile ("configuration file \"" ++ Utf8.lossyText name ++ "\" not found"))

def diverge : List Bytes → List Bytes → List Bytes × List Bytes
  | a :: as, b :: bs => if a = b then diverge as bs else (a :: as, b :: bs)
  | as, bs => (as, bs)

def relative (here path : Bytes) : Bytes :=
  let (rest, back) := diverge (Path.names path) (Path.names here)
  joinWith [Path.slash] (back.map (fun _ => Path.upName) ++ rest)

structure Found where
  origin : String
  format : DocumentFormat
  text : List Char

def fetch (t : FileTree) (here name : Bytes) : Reading Found := do
  let (path, format) ← find t here name
  match t.contents path with
  | .error fault => .error (.noFile fault.message)
  | .ok data =>
    match Utf8.text? data with
    | none => .error (.noFile "stream did not contain valid UTF-8")
    | some text => return ⟨Utf8.lossyText (relative here path), format, text.toList⟩

def Found.layer (f : Found) : Reading Layer :=
  match f.format.read f.text with
  | .error fault => .error (.document fault)
  | .ok entries => .ok (Value.ofEntries (some f.origin) entries)

/-- The layer of the file that the command line names, which has to be there, or else of the
default one, which need not. A file that is there has to be well formed. -/
def layer (t : FileTree) (here : Bytes) (config : Option String) : Reading Layer :=
  match config with
  | some name => (fetch t here (Utf8.octets name)).bind Found.layer
  | none =>
    match fetch t here defaultName with
    | .ok found => found.layer
    | .error _ => .ok []

end SettingsFile

namespace Arguments

/-- The directory is taken as text, whatever octets it is written in. -/
def layer (a : Arguments) : Layer :=
  (a.bind.map fun s => ("server.bind", Value.text s)).toList ++
  (a.port.map fun n => ("server.port", Value.nat n)).toList ++
  (a.dir.map fun d => ("server.root", Value.text (Utf8.lossyText d))).toList

end Arguments

namespace Settings

/-- What holds where nothing is set. The directory the program is started in is served. -/
def defaults (here : Bytes) : Layer :=
  [
    ("server.bind", .text "127.0.0.1"),
    ("server.port", .nat 8000),
    ("server.root", .text (Utf8.lossyText here)),
    ("logging.level", .text "info"),
    ("logging.access_log", .bool true),
    ("logging.access_log_format", .text "common"),
    ("performance.keep_alive", .bool true),
    ("performance.backlog", .nat 128),
    ("http.server_name", .text "coi-serve/0.1.0")]

end Settings

end IsolatedSite
