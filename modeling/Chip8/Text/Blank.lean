/-!
# Blanks around numbers

A number may be surrounded by blanks: the ASCII space, tab, line feed, vertical
tab, form feed and carriage return, and every white-space character beyond
ASCII.
-/
namespace Chip8
namespace Text

def isBlank (c : Char) : Bool :=
  let n := c.toNat
  n == 0x20 || (0x09 ≤ n && n ≤ 0x0D) || n == 0x85 || n == 0xA0 || n == 0x1680 ||
    (0x2000 ≤ n && n ≤ 0x200A) || n == 0x2028 || n == 0x2029 || n == 0x202F || n == 0x205F ||
    n == 0x3000

def trimBlanks (cs : List Char) : List Char :=
  ((cs.dropWhile isBlank).reverse.dropWhile isBlank).reverse

end Text
end Chip8
