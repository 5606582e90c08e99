import Chip8.Number.Binary64
import Chip8.Text.Padded

/-!
# Writing numbers

A double is written in one of two ways: with the fewest digits that read back
(`Binary64.text`), or with a set number of decimal places (`Binary64.fixed`).

The shortest form lays its digits out positionally from 10^-4 up to below 10^16,
and always with a point and a digit after it; outside that range it has an
exponent with a sign and at least two digits. The fixed form rounds the exact
value, a half to the even last digit, and keeps the sign of what rounds to zero.
-/
namespace Chip8
namespace Binary64

/-! ## The fewest digits -/

/-- The positive number `m * 2 ^ e / 10 ^ power` as a quotient of integers. -/
def ratio (m : Nat) (e power : Int) : Nat × Nat :=
  ((m <<< e.toNat) * Nat.pow 10 (-power).toNat, (1 <<< (-e).toNat) * Nat.pow 10 power.toNat)

/-- The least `k` from `low` on with `m * 2 ^ e < 10 ^ k`, looking at `fuel` of them. -/
def decimalScale (m : Nat) (e low : Int) : Nat → Int
  | 0 => low
  | fuel + 1 =>
    let (num, den) := ratio m e low
    if num < den then low else decimalScale m e (low + 1) fuel

/-- The number of digits before the decimal point of `m * 2 ^ e`. The binary
logarithm gives it up to one, as 2 is 10 to the power 0.30103. -/
def pointPosition (m : Nat) (e : Int) : Int :=
  decimalScale m e (((m.log2 : Int) + e) * 30103 / 100000 - 1) 4

/-- Whether `c * 10 ^ power` reads back as the positive number `m * 2 ^ e`. -/
def readsBack (m : Nat) (e : Int) (c : Nat) (power : Int) : Bool :=
  ofDecimal false c 20 power == .finite false m e

/-- A multiple of `10 ^ power` next to `m * 2 ^ e` that reads back: the nearer one
if both neighbours do, and the even one if they are equally near. -/
def neighbour? (m : Nat) (e power : Int) : Option Nat :=
  let (num, den) := ratio m e power
  let nearest := roundHalfEven num den
  let other := if nearest = num / den then nearest + 1 else nearest - 1
  [nearest, other].find? fun c => readsBack m e c power

/-- The fewest digits that read back, as a coefficient and a power of ten: the
first grid of decimals with `count` digits or more that has a candidate. Seventeen
digits always do, so the exact value is never needed. -/
def shortest (m : Nat) (e : Int) : Nat × Int :=
  let scale := pointPosition m e
  match (List.range 17).findSome? fun (k : Nat) =>
      let power := scale - ((k : Int) + 1)
      (neighbour? m e power).map (·, power) with
  | some found => found
  | none => ((m <<< e.toNat) * Nat.pow 5 (-e).toNat, min e 0)

/-! ## Layout -/

/-- The text without zeros at its right end. -/
def dropTrailingZeros (ds : List Char) : List Char := (ds.reverse.dropWhile (· == '0')).reverse

/-- Lays out the number `0.ds * 10 ^ scale`, where `ds` has no zero at either end. -/
def layout (ds : List Char) (scale : Int) : List Char :=
  if -4 < scale ∧ scale ≤ 16 then
    if scale ≤ 0 then ['0', '.'] ++ List.replicate (-scale).toNat '0' ++ ds
    else
      let whole := ds.take scale.toNat
      let part := ds.drop scale.toNat
      whole ++ List.replicate (scale.toNat - whole.length) '0' ++ ['.'] ++
        (if part.isEmpty then ['0'] else part)
  else
    let exponent := scale - 1
    ds.take 1 ++ (if ds.length ≤ 1 then [] else '.' :: ds.drop 1) ++
      ['e', if exponent < 0 then '-' else '+'] ++
      (Text.padLeft 2 '0' (toString exponent.natAbs)).toList

def signText (negative : Bool) : String := if negative then "-" else ""

def text : Binary64 → String
  | .nan => "nan"
  | .infinite negative => signText negative ++ "inf"
  | .finite negative 0 _ => signText negative ++ "0.0"
  | .finite negative m e =>
    let (c, power) := shortest m e
    let digits := Nat.toDigits 10 c
    signText negative ++
      String.ofList (layout (dropTrailingZeros digits) (power + (digits.length : Int)))

/-! ## A set number of places -/

def fixedText (n places : Nat) : String :=
  let digits := Text.padLeft (places + 1) '0' (toString n)
  let whole := digits.length - places
  String.ofList (digits.toList.take whole ++ ['.'] ++ digits.toList.drop whole)

def fixed (places : Nat) : Binary64 → String
  | .nan => "nan"
  | .infinite negative => signText negative ++ "inf"
  | .finite negative m e =>
    let (num, den) := ratio m e (-(places : Int))
    signText negative ++ fixedText (roundHalfEven num den) places

end Binary64
end Chip8
