import IsolatedSite.FileTree.Walk
import IsolatedSite.Html
import IsolatedSite.Percent
import IsolatedSite.Text.Lowercase

namespace IsolatedSite

/-- A line of a listing. A link to a directory counts as a directory. -/
structure ListingEntry where
  name : String
  isDirectory : Bool
  isLink : Bool
  deriving DecidableEq, Repr

namespace ListingEntry

/-- Directories are shown with a slash, links to anything else with an at sign. -/
def label (e : ListingEntry) : String :=
  if e.isDirectory then e.name ++ "/" else if e.isLink then e.name ++ "@" else e.name

def href (e : ListingEntry) : String :=
  if e.isDirectory then Percent.encodeText e.name ++ "/" else Percent.encodeText e.name

def item (e : ListingEntry) : String :=
  "<li><a href=\"" ++ Html.escapeText e.href ++ "\">" ++ Html.escapeText e.label ++ "</a></li>\n"

def key (e : ListingEntry) : Bytes := Utf8.octets (Text.lowercase e.name)

def ofDirEntry (t : FileTree) (dir : Spot) (e : DirEntry) : ListingEntry :=
  let isLink := (t.targetOf? e.node).isSome
  { name := Utf8.lossyText e.name.octets
    isDirectory :=
      if isLink then t.isDirectoryAt (Path.push dir.path e.name.octets)
      else (t.node? e.node).any (·.content.isDirectory)
    isLink := isLink }

end ListingEntry

namespace Listing

def sorted (entries : List ListingEntry) : List ListingEntry :=
  entries.mergeSort fun a b => decide (a.key ≤ b.key)

def read (t : FileTree) (dir : Spot) : Except Fault (List ListingEntry) :=
  (t.list dir).map fun entries => sorted (entries.map (ListingEntry.ofDirEntry t dir))

def title (path : String) : String := "Directory listing for " ++ Html.escapeText path

def page (path : String) (entries : List ListingEntry) : String :=
  "<!DOCTYPE HTML>\n<html lang=\"en\">\n<head>\n<meta charset=\"utf-8\">\n<title>" ++ title path ++
  "</title>\n</head>\n<body>\n<h1>" ++ title path ++ "</h1>\n<hr>\n<ul>\n" ++
  String.join (entries.map ListingEntry.item) ++ "</ul>\n<hr>\n</body>\n</html>\n"

end Listing

end IsolatedSite
