namespace IsolatedSite.Text

def asciiLower (s : String) : String := String.ofList (s.toList.map Char.toLower)

end IsolatedSite.Text
