namespace Encounter.Text

def isSpacing (c : Char) : Bool :=
  let n := c.toNat
  (0x09 ≤ n && n ≤ 0x0D) || n == 0x20 || n == 0x85 || n == 0xA0 || n == 0x1680 ||
    (0x2000 ≤ n && n ≤ 0x200A) || n == 0x2028 || n == 0x2029 || n == 0x202F || n == 0x205F ||
    n == 0x3000

/-- White space and the four information separators. -/
def isBlank (c : Char) : Bool := isSpacing c || (0x1C ≤ c.toNat && c.toNat ≤ 0x1F)

def trimChars (p : Char → Bool) (cs : List Char) : List Char :=
  ((cs.dropWhile p).reverse.dropWhile p).reverse

def trimWhere (p : Char → Bool) (s : String) : String := String.ofList (trimChars p s.toList)

def trim (s : String) : String := trimWhere isBlank s

def squeeze (s : String) : List Char := s.toList.filter fun c => !isBlank c

end Encounter.Text
