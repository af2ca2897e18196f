import CardRules.Text.Ranges

/-!
# Blank characters

White space of every script, and texts without it at their ends.
-/

namespace CardRules.Text

/-- Spaces, line ends and the ASCII separators. -/
def blankRanges : Ranges := [
  (0x9, 0xD), (0x1C, 0x20), (0x85, 0x85), (0xA0, 0xA0), (0x1680, 0x1680), (0x2000, 0x200A),
  (0x2028, 0x2029), (0x202F, 0x202F), (0x205F, 0x205F), (0x3000, 0x3000)]

def isBlank (c : Char) : Bool := blankRanges.has c.toNat

def dropEnd (p : Char → Bool) (s : List Char) : List Char := (s.reverse.dropWhile p).reverse

def dropEnds (p : Char → Bool) (s : List Char) : List Char := dropEnd p (s.dropWhile p)

def trim (s : List Char) : List Char := dropEnds isBlank s

def strip (s : String) : String := String.ofList (trim s.toList)

end CardRules.Text
