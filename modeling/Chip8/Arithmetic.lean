/-!
# The two-register operations

The 8XYN family combines two byte registers. Every operation yields a result
for VX; the last five also yield a flag for VF: the carry of an addition, the
complement of the borrow of a subtraction, or the bit that a shift moved out.
-/
namespace Chip8

/-- The operations of the 8XYN family. `subFrom` subtracts VX from VY. -/
inductive Arith where
  | copy | or | and | xor | add | sub | shiftRight | subFrom | shiftLeft
  deriving DecidableEq, Repr

namespace Arith

/-- The operation that the last nibble of an 8XYN word selects. -/
def ofNibble? : Fin 16 → Option Arith
  | 0x0 => some .copy
  | 0x1 => some .or
  | 0x2 => some .and
  | 0x3 => some .xor
  | 0x4 => some .add
  | 0x5 => some .sub
  | 0x6 => some .shiftRight
  | 0x7 => some .subFrom
  | 0xE => some .shiftLeft
  | _ => none

/-- The new value of VX, from `a` in VX and `b` in VY. -/
def result (a b : UInt8) : Arith → UInt8
  | .copy => b
  | .or => a ||| b
  | .and => a &&& b
  | .xor => a ^^^ b
  | .add => a + b
  | .sub => a - b
  | .shiftRight => a >>> 1
  | .subFrom => b - a
  | .shiftLeft => a <<< 1

def flagOf (c : Bool) : UInt8 := if c then 1 else 0

/-- The new value of VF, for the operations that report one. -/
def flag (a b : UInt8) : Arith → Option UInt8
  | .copy | .or | .and | .xor => none
  | .add => some (flagOf (255 < a.toNat + b.toNat))
  | .sub => some (flagOf (b ≤ a))
  | .shiftRight => some (a &&& 1)
  | .subFrom => some (flagOf (a ≤ b))
  | .shiftLeft => some (a >>> 7)

end Arith
end Chip8
