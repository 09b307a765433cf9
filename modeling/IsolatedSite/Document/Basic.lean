import IsolatedSite.Document.Ini
import IsolatedSite.Document.Json
import IsolatedSite.Document.Json5
import IsolatedSite.Document.Ron
import IsolatedSite.Document.Toml
import IsolatedSite.Document.Yaml

namespace IsolatedSite

inductive DocumentFormat where
  | toml
  | json
  | yaml
  | ini
  | ron
  | json5
  deriving DecidableEq, Repr

namespace DocumentFormat

def extensions : List (String × DocumentFormat) :=
  [
    ("toml", .toml),
    ("json", .json),
    ("yaml", .yaml),
    ("yml", .yaml),
    ("ini", .ini),
    ("ron", .ron),
    ("json5", .json5)]

def ofExtension? (ext : String) : Option DocumentFormat := extensions.lookup ext

def read (f : DocumentFormat) (cs : List Char) : Except DocumentFault (List (String × Datum)) :=
  let wellFormed := fun (entries? : Option (List (String × Datum))) =>
    match entries? with
    | some entries => .ok entries
    | none => .error .malformed
  match f with
  | .toml => wellFormed (Toml.document? cs)
  | .json => wellFormed (Json.document? cs)
  | .yaml => Yaml.document cs
  | .ini => wellFormed (Ini.document? cs)
  | .ron => wellFormed (Ron.document? cs)
  | .json5 => wellFormed (Json5.document? cs)

end DocumentFormat

end IsolatedSite
