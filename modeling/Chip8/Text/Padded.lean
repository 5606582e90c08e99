/-!
# Padded and grouped integers

Hexadecimal numbers are written with capital digits and zeros up to a width; the
sign of a negative number counts towards the width. Counts are written with a
comma between groups of three digits.
-/
namespace Chip8
namespace Text

/-- Puts `c` in front of a text until it has `width` characters. -/
def padLeft (width : Nat) (c : Char) (s : String) : String :=
  String.ofList (List.replicate (width - s.length) c) ++ s

/-- The hexadecimal digits of a number, in capitals. -/
def hexDigits (n : Nat) : String := String.ofList ((Nat.toDigits 16 n).map Char.toUpper)

/-- A number in hexadecimal, with zeros after the sign up to `width` characters. -/
def hex (width : Nat) (n : Int) : String :=
  if n < 0 then "-" ++ padLeft (width - 1) '0' (hexDigits n.natAbs)
  else padLeft width '0' (hexDigits n.natAbs)

/-- Puts a comma before every third digit from the right, on reversed digits. -/
def groupReversed : List Char → List Char
  | a :: b :: c :: d :: rest => a :: b :: c :: ',' :: groupReversed (d :: rest)
  | short => short

def grouped (n : Int) : String :=
  (if n < 0 then "-" else "") ++
    String.ofList (groupReversed (Nat.toDigits 10 n.natAbs).reverse).reverse

end Text
end Chip8
