import Chip8.Image.Pieces
import Chip8.Image.Tone

/-!
# Waves in place of pixels

Eight values in a row are a sum of eight waves, from the constant one to the one
that changes sign from each value to the next. A block of eight by eight pixels
becomes the strengths of its waves in both directions. The strengths are kept as
multiples of the steps of a table, and that is where a picture loses detail.
-/
namespace Chip8

abbrev Block := List (List Int)

namespace Block

/-- The waves, in units of 1/8192. -/
def waves : Block := [
  [8192, 8192, 8192, 8192, 8192, 8192, 8192, 8192],
  [11363, 9633, 6437, 2260, -2260, -6437, -9633, -11363],
  [10703, 4433, -4433, -10703, -10703, -4433, 4433, 10703],
  [9633, -2259, -11362, -6436, 6436, 11362, 2259, -9633],
  [8192, -8192, -8192, 8192, 8192, -8192, -8192, 8192],
  [6437, -11362, 2261, 9633, -9633, -2261, 11362, -6437],
  [4433, -10704, 10704, -4433, -4433, 10704, -10704, 4433],
  [2260, -6436, 9633, -11363, 11363, -9633, 6436, -2260]]

/-- The sum of the products of the numbers of two rows. -/
def dot : List Int → List Int → Int
  | a :: as, b :: bs => a * b + dot as bs
  | _, _ => 0

/-- The products of a row with the rows of a block, in units of an even number and
rounded. -/
def product (unit : Int) (b : Block) (row : List Int) : List Int :=
  b.map fun w => (dot w row + unit / 2) / unit

/-- The strengths of the waves, eight times too large: first along the rows, then
along the columns. -/
def analyse (b : Block) : Block :=
  columns ((columns (b.map (product 2048 waves))).map (product 32768 waves))

/-- The pixels of the strengths of waves: first along the columns, then along the
rows. -/
def synthesise (b : Block) : Block :=
  (columns ((columns b).map (product 2048 (columns waves)))).map (product 262144 (columns waves))

/-- The multiple of a step that is closest to a strength that is eight times too
large; between two of them, the one farther from zero. -/
def steps (step strength : Int) : Int :=
  if strength < 0 then -((4 * step - strength) / (8 * step))
  else (4 * step + strength) / (8 * step)

/-- The strengths in the steps of a table. The pixels are taken from the middle of
their range. -/
def reduce (table b : Block) : Block :=
  List.zipWith (List.zipWith steps) table (analyse (b.map (·.map (· - 128))))

/-- The pixels of strengths in the steps of a table. -/
def restore (table b : Block) : Block :=
  let pixel := fun (n : Int) => max 0 (min 255 (n + 128))
  (synthesise (List.zipWith (List.zipWith (· * ·)) table b)).map (·.map pixel)

end Block

namespace Plane

def blocks (p : Plane) : List (List Block) :=
  (pieces 8 p).map fun band => columns (band.map (pieces 8))

def ofBlocks (bs : List (List Block)) : Plane :=
  bs.flatMap fun band => (columns band).map List.flatten

end Plane
end Chip8
