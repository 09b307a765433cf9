import IsolatedSite.Path
import IsolatedSite.Text.Ascii

namespace IsolatedSite

/-- Extensions in lower case with their types, the newest first. -/
structure MediaTypes where
  entries : List (String × String)
  deriving DecidableEq, Repr

namespace MediaTypes

def unknown : String := "application/octet-stream"

def common : List (String × String) :=
  [
    ("html", "text/html; charset=utf-8"),
    ("htm", "text/html; charset=utf-8"),
    ("css", "text/css; charset=utf-8"),
    ("txt", "text/plain; charset=utf-8"),
    ("md", "text/markdown; charset=utf-8"),
    ("csv", "text/csv; charset=utf-8"),
    ("xml", "application/xml"),
    ("js", "text/javascript; charset=utf-8"),
    ("mjs", "text/javascript; charset=utf-8"),
    ("json", "application/json"),
    ("map", "application/json"),
    ("ts", "application/typescript"),
    ("png", "image/png"),
    ("jpg", "image/jpeg"),
    ("jpeg", "image/jpeg"),
    ("gif", "image/gif"),
    ("svg", "image/svg+xml"),
    ("ico", "image/x-icon"),
    ("webp", "image/webp"),
    ("avif", "image/avif"),
    ("mp4", "video/mp4"),
    ("webm", "video/webm"),
    ("ogg", "audio/ogg"),
    ("mp3", "audio/mpeg"),
    ("wav", "audio/wav"),
    ("woff", "font/woff"),
    ("woff2", "font/woff2"),
    ("ttf", "font/ttf"),
    ("otf", "font/otf"),
    ("pdf", "application/pdf"),
    ("zip", "application/zip"),
    ("gz", "application/gzip"),
    ("tar", "application/x-tar")]

def insert (t : MediaTypes) (ext type : String) : MediaTypes := ⟨(ext, type) :: t.entries⟩

/-- Browsers compile a module while it arrives only if it has the type given here. -/
def builtIn : MediaTypes := (MediaTypes.mk common).insert "wasm" "application/wasm"

def normalKey (key : String) : String :=
  String.ofList ((key.toList.dropWhile (· == '.')).map Char.toLower)

def add (t : MediaTypes) (key type : String) : MediaTypes :=
  if normalKey key = "" then t else t.insert (normalKey key) type

def overlay (t : MediaTypes) (layer : List (String × String)) : MediaTypes :=
  layer.foldl (fun t e => t.add e.1 e.2) t

def find? (t : MediaTypes) (ext : String) : Option String :=
  (t.entries.lookup ext).or (t.entries.lookup (Text.asciiLower ext))

def get (t : MediaTypes) (ext : Option String) : String := (ext.bind t.find?).getD unknown

/-- An extension that is not text has no type of its own. -/
def forPath (t : MediaTypes) (p : Bytes) : String := t.get ((Path.extension? p).bind Utf8.text?)

end MediaTypes

end IsolatedSite
