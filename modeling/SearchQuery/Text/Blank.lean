import SearchQuery.Text.Ranges

/-!
White space between tokens: the characters with the Unicode property
White_Space, which is more than the ASCII blanks.
-/

namespace SearchQuery.Text

def blanks : Ranges :=
  [(0x09, 0x0D), (0x20, 0x20), (0x85, 0x85), (0xA0, 0xA0), (0x1680, 0x1680),
   (0x2000, 0x200A), (0x2028, 0x2029), (0x202F, 0x202F), (0x205F, 0x205F),
   (0x3000, 0x3000)]

def isBlank (c : Char) : Bool := blanks.contains c

end SearchQuery.Text
