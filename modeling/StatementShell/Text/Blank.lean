import StatementShell.Text.Ranges
/-!
# Blank characters

White space in the sense of Unicode 14.0, with the four information separators below the space.
-/

namespace StatementShell

namespace Ranges

def blank : Ranges :=
  [(0x9, 0xd), (0x1c, 0x20), (0x85, 0x85), (0xa0, 0xa0), (0x1680, 0x1680), (0x2000, 0x200a),
   (0x2028, 0x2029), (0x202f, 0x202f), (0x205f, 0x205f), (0x3000, 0x3000)]

end Ranges

def isBlank (c : Char) : Bool :=
  Ranges.blank.has c

def Text.trim (text : Text) : Text :=
  ((text.dropWhile isBlank).reverse.dropWhile isBlank).reverse

end StatementShell
