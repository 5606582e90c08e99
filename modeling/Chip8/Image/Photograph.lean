import Chip8.Image.Bytes
import Chip8.Image.Cosine

/-!
# Photographs

A photograph keeps the brightness of every pixel and the tints of every square of
two by two, in blocks of waves whose strengths are rounded. `kept` is the picture
that readers of the file see. The sides of a picture are multiples of sixteen, as
those of every picture of the display are.
-/
namespace Chip8
namespace Photograph

def sharp : Block := [
  [8, 6, 5, 8, 12, 20, 26, 31],
  [6, 6, 7, 10, 13, 29, 30, 28],
  [7, 7, 8, 12, 20, 29, 35, 28],
  [7, 9, 11, 15, 26, 44, 40, 31],
  [9, 11, 19, 28, 34, 55, 52, 39],
  [12, 18, 28, 32, 41, 52, 57, 46],
  [25, 32, 39, 44, 52, 61, 60, 51],
  [36, 46, 48, 49, 56, 50, 52, 50]]

def coarse : Block := [
  [9, 9, 12, 24, 50, 50, 50, 50],
  [9, 11, 13, 33, 50, 50, 50, 50],
  [12, 13, 28, 50, 50, 50, 50, 50],
  [24, 33, 50, 50, 50, 50, 50, 50],
  [50, 50, 50, 50, 50, 50, 50, 50],
  [50, 50, 50, 50, 50, 50, 50, 50],
  [50, 50, 50, 50, 50, 50, 50, 50],
  [50, 50, 50, 50, 50, 50, 50, 50]]

/-- What a photograph holds: the rounded blocks of three planes, in rows. -/
structure Content where
  brightness : List (List Block)
  blue : List (List Block)
  red : List (List Block)

def content (i : Image) : Content :=
  let (brightness, blue, red) := i.planes
  let reduce := fun (table : Block) (p : Plane) => p.blocks.map (·.map (Block.reduce table))
  ⟨reduce sharp brightness, reduce coarse blue.halve, reduce coarse red.halve⟩

/-- The picture that a content stands for. -/
def Content.shown (c : Content) : Image :=
  let restore := fun (table : Block) (bs : List (List Block)) =>
    Plane.ofBlocks (bs.map (·.map (Block.restore table)))
  Image.ofPlanes (restore sharp c.brightness) (restore coarse c.blue).double
    (restore coarse c.red).double

def kept (i : Image) : Image := (content i).shown

/-! ## Bits -/

/-- `count` bits of a number, the highest first. -/
def bits (count n : Nat) : List Bool := (List.range count).reverse.map n.testBit

/-- The number of bits of an amount. -/
def width (n : Int) : Nat := if n = 0 then 0 else n.natAbs.log2 + 1

/-- The bits of an amount in its width. A negative one is below the positive ones. -/
def amount (n : Int) : List Bool :=
  bits (width n) (if n < 0 then n + (1 <<< width n : Nat) - 1 else n).toNat

/-- A code in eight bits for a count of zeros below 16 and the width of what follows
them; with both zero, the end of a block. -/
def code (zeros size : Nat) : List Bool := bits 8 (11 * zeros + size)

/-- The strengths of a block behind its first, after a number of zeros. -/
def tail : Nat → List Int → List Bool
  | zeros, [] => if zeros = 0 then [] else code 0 0
  | zeros, n :: rest =>
    if n = 0 then tail (zeros + 1) rest
    else (List.replicate (zeros / 16) (code 15 0)).flatten ++ code (zeros % 16) (width n) ++
      amount n ++ tail 0 rest

/-- The strengths of a block: the first behind four bits for its width. -/
def block : List Int → List Bool
  | [] => []
  | n :: rest => bits 4 (width n) ++ amount n ++ tail 0 rest

/-! ## Order -/

/-- The places of a block along its diagonals, to and fro. -/
def path : List (Nat × Nat) :=
  ((List.range 15).flatMap fun s =>
    let rows := List.range (s + 1)
    (if s % 2 = 0 then rows.reverse else rows).map fun y => (y, s - y)).filter
      fun p => p.1 < 8 ∧ p.2 < 8

def along (b : Block) : List Int := path.map fun p => (b.getD p.1 []).getD p.2 0

/-- Blocks whose first number is said by its distance from the one before. -/
def distances (bs : List (List Int)) : List (List Int) :=
  List.zipWith (fun before b => (b.headD 0 - before) :: b.tail) (0 :: bs.map (·.headD 0)) bs

/-- The blocks of brightness: four of a square together, then the next square. -/
def squares (rows : List (List Block)) : List Block :=
  (pieces 2 rows).flatMap fun pair => (columns (pair.map (pieces 2))).flatMap List.flatten

/-- All blocks in the order of the file: the four of a square, then its tints. -/
def Content.bits (c : Content) : List Bool :=
  let coded := fun (bs : List Block) => (distances (bs.map along)).map block
  let brightness := (pieces 4 (coded (squares c.brightness))).map List.flatten
  let tints := List.zipWith (· ++ ·) (coded c.blue.flatten) (coded c.red.flatten)
  (List.zipWith (· ++ ·) brightness tints).flatten

/-! ## The file -/

/-- Bits as bytes, the highest first; ones fill up the last. A byte of ones is
followed by a zero, so that it begins no segment. -/
def pack (bs : List Bool) : List UInt8 :=
  (pieces 8 bs).flatMap fun eight =>
    let ones := List.replicate (8 - eight.length) true
    let b := (eight ++ ones).foldl (fun (n : UInt8) x => 2 * n + x.toUInt8) 0
    if b = 0xFF then [0xFF, 0] else [b]

def segment (kind : UInt8) (fields : List UInt8) : List UInt8 :=
  [0xFF, kind] ++ networkOrder 2 (fields.length + 2) ++ fields

def steps (name : UInt8) (table : Block) : List UInt8 :=
  segment 0xDB (name :: (along table).map fun n => UInt8.ofNat n.toNat)

/-- A table of codes of one length: how many there are of each length, and what
they mean. -/
def codes (name : UInt8) (length : Nat) (meanings : List UInt8) : List UInt8 :=
  segment 0xC4 (name :: zeroBytes (length - 1) ++ [UInt8.ofNat meanings.length] ++
    zeroBytes (16 - length) ++ meanings)

/-- The bytes of a picture as a photograph. -/
def encode (i : Image) : List UInt8 :=
  let sizes := (List.range 12).map UInt8.ofNat
  let runs := (List.range 16).flatMap fun zeros =>
    (List.range 11).map fun size => UInt8.ofNat (16 * zeros + size)
  [0xFF, 0xD8] ++ segment 0xE0 (asciiBytes "JFIF" ++ [0, 1, 1, 0, 0, 1, 0, 1, 0, 0]) ++
    steps 0 sharp ++ steps 1 coarse ++
    segment 0xC0 ([8] ++ networkOrder 2 i.height ++ networkOrder 2 i.width ++
      [3, 1, 0x22, 0, 2, 0x11, 1, 3, 0x11, 1]) ++
    codes 0 4 sizes ++ codes 0x10 8 runs ++
    segment 0xDA [3, 1, 0, 2, 0, 3, 0, 0, 63, 0] ++ pack (content i).bits ++ [0xFF, 0xD9]

end Photograph
end Chip8
