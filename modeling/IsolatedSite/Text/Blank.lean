namespace IsolatedSite.Text

def isSpace (c : Char) : Bool :=
  let n := c.toNat
  n == 0x20 || n == 0xA0 || n == 0x1680 || (0x2000 ≤ n && n ≤ 0x200A) || n == 0x202F ||
    n == 0x205F || n == 0x3000

def isBlank (c : Char) : Bool :=
  let n := c.toNat
  isSpace c || (9 ≤ n && n ≤ 13) || n == 0x85 || n == 0x2028 || n == 0x2029

def trim (cs : List Char) : List Char :=
  ((cs.dropWhile isBlank).reverse.dropWhile isBlank).reverse

end IsolatedSite.Text
