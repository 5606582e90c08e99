import Chip8.Image.Render

/-!
# Numbers and pixels as bytes

The parts of which picture files are made: numbers of a fixed count of bytes, and
pixels with their parts in one order or the other.
-/
namespace Chip8

/-- `count` bytes of a number, the lowest first. -/
def littleEndian : Nat → Nat → List UInt8
  | 0, _ => []
  | count + 1, n => UInt8.ofNat n :: littleEndian count (n / 256)

/-- `count` bytes of a number, the highest first. -/
def networkOrder (count n : Nat) : List UInt8 := (littleEndian count n).reverse

@[simp] theorem length_littleEndian (count n : Nat) : (littleEndian count n).length = count := by
  induction count generalizing n with
  | zero => rfl
  | succ count ih => rw [littleEndian, List.length_cons, ih]

@[simp] theorem length_networkOrder (count n : Nat) : (networkOrder count n).length = count := by
  rw [networkOrder, List.length_reverse, length_littleEndian]

def zeroBytes (count : Nat) : List UInt8 := List.replicate count 0

@[simp] theorem length_zeroBytes (count : Nat) : (zeroBytes count).length = count :=
  List.length_replicate

def asciiBytes (s : String) : List UInt8 := s.toUTF8.toList

namespace Colour

def forward (c : Colour) : List UInt8 := [c.red, c.green, c.blue]

def backward (c : Colour) : List UInt8 := [c.blue, c.green, c.red]

end Colour
end Chip8
