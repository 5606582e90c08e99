/-!
# Double-precision numbers

The numbers of the 64-bit binary format, exactly: a finite number is a sign, a
significand below 2^53 and an exponent of two. Every operation computes in
unbounded integers and rounds once, to the nearest number of the format, a half
to the even significand.

`ofRatio` is the only place that rounds; it keeps finite numbers in their
canonical form, in which the significand has 53 bits unless the exponent is the
least one.
-/
namespace Chip8

/-- A number of the 64-bit binary format. -/
inductive Binary64 where
  | nan
  | infinite (negative : Bool)
  /-- The number `significand * 2 ^ exponent`, or its negative. -/
  | finite (negative : Bool) (significand : Nat) (exponent : Int)
  deriving DecidableEq, Repr

/-! ## Rounding quotients -/

/-- The integer nearest to `num / den`, a half going to the even neighbour. -/
def roundHalfEven (num den : Nat) : Nat :=
  let q := num / den
  let r := num % den
  if 2 * r < den then q else if den < 2 * r then q + 1 else q + q % 2

namespace Binary64

/-- The least exponent; below it the numbers are spaced evenly. -/
def minExponent : Int := -1074

/-- The greatest exponent of a finite number. -/
def maxExponent : Int := 971

def zero (negative : Bool) : Binary64 := .finite negative 0 minExponent

/-- `num / den / 2 ^ e` as a quotient of integers. -/
def scaleDown (num den : Nat) (e : Int) : Nat × Nat :=
  if 0 ≤ e then (num, den <<< e.toNat) else (num <<< (-e).toNat, den)

/-- The exponent at which `num / den` has a significand of 53 bits, or the least
exponent if that is greater. -/
def exponentOf (num den : Nat) : Int :=
  let guess : Int := (num.log2 : Int) - (den.log2 : Int) - 52
  let (n, d) := scaleDown num den guess
  max minExponent (if n / d < 1 <<< 52 then guess - 1 else guess)

/-- The number nearest to `num / den`, with the given sign. -/
def ofRatio (negative : Bool) (num den : Nat) : Binary64 :=
  if num = 0 then zero negative
  else
    let e := exponentOf num den
    let (n, d) := scaleDown num den e
    let m := roundHalfEven n d
    let (m, e) := if m = 1 <<< 53 then (1 <<< 52, e + 1) else (m, e)
    if maxExponent < e then .infinite negative else .finite negative m e

/-- The number nearest to `m * 2 ^ e`, with the given sign. -/
def ofScaled (negative : Bool) (m : Nat) (e : Int) : Binary64 :=
  if 0 ≤ e then ofRatio negative (m <<< e.toNat) 1
  else ofRatio negative m (1 <<< (-e).toNat)

/-- The number nearest to an integer, unless the integer is too large. -/
def ofInt? (n : Int) : Option Binary64 :=
  match ofRatio (n < 0) n.natAbs 1 with
  | .infinite _ => none
  | x => some x

/-! ## Reading decimals -/

/-- The number nearest to `digits * 10 ^ exponent`, where `digits` was written
with at most `width` digits. Exponents so large or small that the result is
infinite or zero in any case are not expanded. -/
def ofDecimal (negative : Bool) (digits width : Nat) (exponent : Int) : Binary64 :=
  if digits = 0 then zero negative
  else if 400 < exponent then .infinite negative
  else if exponent + (width : Int) < -400 then zero negative
  else if 0 ≤ exponent then ofRatio negative (digits * Nat.pow 10 exponent.toNat) 1
  else ofRatio negative digits (Nat.pow 10 (-exponent).toNat)

/-! ## Operations -/

def isNegative : Binary64 → Bool
  | .nan => false
  | .infinite negative => negative
  | .finite negative m _ => negative && m != 0

def mul : Binary64 → Binary64 → Binary64
  | .nan, _ => .nan
  | _, .nan => .nan
  | .infinite s, .infinite t => .infinite (s ^^ t)
  | .infinite s, .finite t m _ => if m = 0 then .nan else .infinite (s ^^ t)
  | .finite s m _, .infinite t => if m = 0 then .nan else .infinite (s ^^ t)
  | .finite s m e, .finite t n f => ofScaled (s ^^ t) (m * n) (e + f)

inductive TruncateError where
  | nan
  | infinite
  deriving DecidableEq, Repr

def truncate : Binary64 → Except TruncateError Int
  | .nan => .error .nan
  | .infinite _ => .error .infinite
  | .finite negative m e =>
    let magnitude : Nat := if 0 ≤ e then m <<< e.toNat else m >>> (-e).toNat
    .ok (if negative then -(magnitude : Int) else magnitude)

end Binary64
end Chip8
