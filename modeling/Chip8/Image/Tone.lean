import Chip8.Image.Render

/-!
# Brightness and tints

A colour can be given by its brightness and two tints, the distances of its blue
and of its red from the brightness. The eye sees brightness more sharply, so a
plane of tints may be kept at half the size: `halve` takes the mean of four
neighbours, and `double` blends each value with those beside it.
-/
namespace Chip8

/-- A colour by its brightness and its tints, each from 0 to 255. Greys have both
tints at 128. -/
structure Tone where
  brightness : Int
  blue : Int
  red : Int
  deriving DecidableEq, Repr

def closestByte (n : Int) : UInt8 := UInt8.ofNat (min n.toNat 255)

/-- The tone of a colour. The weights are in units of 1/65536. -/
def Colour.tone (c : Colour) : Tone :=
  let r : Int := c.red.toNat
  let g : Int := c.green.toNat
  let b : Int := c.blue.toNat
  ⟨(19595 * r + 38470 * g + 7471 * b + 32768) / 65536,
   (32768 * b - 11059 * r - 21709 * g + 8421375) / 65536,
   (32768 * r - 27439 * g - 5329 * b + 8421375) / 65536⟩

def Tone.colour (t : Tone) : Colour :=
  let blue := t.blue - 128
  let red := t.red - 128
  ⟨closestByte (t.brightness + (91881 * red + 32768) / 65536),
   closestByte (t.brightness + (32768 - 22554 * blue - 46802 * red) / 65536),
   closestByte (t.brightness + (116130 * blue + 32768) / 65536)⟩

abbrev Plane := List (List Int)

namespace Plane

/-- The means of the squares of two rows. What is left over in rounding goes down
and up by turns: `bias` is 1 or 2. -/
def means : Int → List Int → List Int → List Int
  | bias, a :: b :: upper, c :: d :: lower =>
    (a + b + c + d + bias) / 4 :: means (3 - bias) upper lower
  | _, _, _ => []

/-- Every square of two by two pixels as one. -/
def halve : Plane → Plane
  | upper :: lower :: rest => means 1 upper lower :: halve rest
  | _ => []

/-- Every item between the one before it and the one behind it. At the ends an item
stands in for the one that is missing. -/
def neighbours {α : Type} (items : List α) : List (α × α × α) :=
  List.zip (items.head?.toList ++ items) (List.zip items (items.tail ++ items.getLast?.toList))

/-- A row at twice the width, from values that are four times too large: three parts
of each with one part of the closer neighbour. -/
def widen (row : List Int) : List Int :=
  (neighbours row).flatMap fun (before, a, behind) =>
    [(3 * a + before + 8) / 16, (3 * a + behind + 7) / 16]

/-- Every pixel as a square of two by two, blended with the closer neighbours. -/
def double (p : Plane) : Plane :=
  (neighbours p).flatMap fun (above, row, below) =>
    let blend := List.zipWith fun (a b : Int) => 3 * a + b
    [widen (blend row above), widen (blend row below)]

end Plane

namespace Image

def planes (i : Image) : Plane × Plane × Plane :=
  let tones := i.rows.map (·.map Colour.tone)
  (tones.map (·.map Tone.brightness), tones.map (·.map Tone.blue), tones.map (·.map Tone.red))

def ofPlanes (brightness blue red : Plane) : Image :=
  let row := fun (r : List Int × List Int × List Int) =>
    (List.zip r.1 (List.zip r.2.1 r.2.2)).map fun p => Tone.colour ⟨p.1, p.2.1, p.2.2⟩
  ⟨(List.zip brightness (List.zip blue red)).map row⟩

end Image
end Chip8
