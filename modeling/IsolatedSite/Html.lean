namespace IsolatedSite.Html

def escapeChar (c : Char) : List Char :=
  match c with
  | '&' => "&amp;".toList
  | '<' => "&lt;".toList
  | '>' => "&gt;".toList
  | '"' => "&quot;".toList
  | '\'' => "&#x27;".toList
  | c => [c]

def escape (cs : List Char) : List Char := cs.flatMap escapeChar

def escapeText (s : String) : String := String.ofList (escape s.toList)

end IsolatedSite.Html
