import Chip8.Number.Binary64
import Chip8.Text.Blank
import Chip8.Text.Digit

/-!
# Reading numbers

Integers and decimals as a user may write them: with blanks around, a sign, the
digits of any script, and single underscores between digits. A decimal may have
a point and an exponent, or be one of the words for infinity and NaN, in any
case.
-/
namespace Chip8
namespace Number

/-! ## Pieces -/

/-- A character with the digits of every script replaced by the ASCII ones. -/
def asciiDigit (c : Char) : Char :=
  match Text.digitValue? c with
  | some v => Nat.digitChar v
  | none => c

/-- A text as the readers see it: no blanks around, digits in ASCII. -/
def normalize (s : String) : List Char := (Text.trimBlanks s.toList).map asciiDigit

/-- The sign in front, and what follows it. -/
def splitSign : List Char → Bool × List Char
  | '-' :: rest => (true, rest)
  | '+' :: rest => (false, rest)
  | cs => (false, cs)

/-- Removes underscores, each of which must stand between two digits. -/
def dropUnderscores? : List Char → Option (List Char)
  | [] => some []
  | '_' :: _ => none
  | c :: '_' :: d :: rest =>
    if c.isDigit && d.isDigit then (dropUnderscores? (d :: rest)).map (c :: ·) else none
  | c :: rest => (dropUnderscores? rest).map (c :: ·)

def digitsValue (ds : List Char) : Nat := ds.foldl (fun n d => 10 * n + (d.toNat - 48)) 0

def allDigits (ds : List Char) : Bool := !ds.isEmpty && ds.all Char.isDigit

/-! ## Integers -/

/-- The most digits of an integer that is read from a text. -/
def maxIntegerDigits : Nat := 4300

def integer? (s : String) : Option Int :=
  let (negative, rest) := splitSign (normalize s)
  match dropUnderscores? rest with
  | none => none
  | some ds =>
    if allDigits ds && ds.length ≤ maxIntegerDigits then
      let n : Int := digitsValue ds
      some (if negative then -n else n)
    else none

/-! ## Decimals -/

/-- Reads an exponent part, which is empty or a mark with an integer. -/
def exponent? : List Char → Option Int
  | [] => some 0
  | c :: rest =>
    if c = 'e' ∨ c = 'E' then
      let (negative, ds) := splitSign rest
      if allDigits ds then
        let n : Int := digitsValue ds
        some (if negative then -n else n)
      else none
    else none

/-- Reads digits with an optional point and exponent. -/
def decimal? (negative : Bool) (cs : List Char) : Option Binary64 :=
  let whole := cs.takeWhile Char.isDigit
  let rest := cs.dropWhile Char.isDigit
  let (part, tail) := match rest with
    | '.' :: more => (more.takeWhile Char.isDigit, more.dropWhile Char.isDigit)
    | _ => ([], rest)
  let ds := whole ++ part
  if ds.isEmpty then none
  else
    (exponent? tail).map fun e =>
      Binary64.ofDecimal negative (digitsValue ds) ds.length (e - (part.length : Int))

/-- Reads a decimal number, infinity or NaN. -/
def binary64? (s : String) : Option Binary64 :=
  match dropUnderscores? (normalize s) with
  | none => none
  | some cs =>
    let (negative, rest) := splitSign cs
    let word := String.ofList (rest.map Char.toLower)
    if word = "inf" ∨ word = "infinity" then some (.infinite negative)
    else if word = "nan" then some .nan
    else decimal? negative rest

end Number
end Chip8
