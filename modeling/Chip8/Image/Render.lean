import Chip8.Display
import Chip8.Image.Palette

/-!
# Pictures of the display

A picture has rows of pixels from the top. Each cell of the display becomes a
square of `scale` by `scale` pixels.

The display comes as a grid of cells of any shape, and colours come as integers,
because a host may hand over anything; `render` refuses, in this order, a scale
below 1, a shape other than 64 by 32, and a colour part outside 0 to 255.
-/
namespace Chip8

/-- A picture: its rows from the top, each a list of pixels from the left. -/
structure Image where
  rows : List (List Colour)
  deriving DecidableEq, Repr

/-- A grid of cells with the given extent in each direction. The cells of a grid
with two directions are read by column and row. -/
structure Grid where
  shape : List Nat
  lit : Nat → Nat → Bool

/-- The grid of a display: 64 columns and 32 rows. -/
def Display.grid (d : Display) : Grid where
  shape := [64, 32]
  lit x y := if h : x < 64 ∧ y < 32 then d.lit ⟨x, h.1⟩ ⟨y, h.2⟩ else false

/-- A colour whose parts may be out of range. -/
structure ColourSpec where
  red : Int
  green : Int
  blue : Int
  deriving DecidableEq, Repr

def Colour.spec (c : Colour) : ColourSpec := ⟨c.red.toNat, c.green.toNat, c.blue.toNat⟩

inductive RenderError where
  | scale (scale : Int)
  | shape (shape : List Nat)
  | colour (part : Int)
  deriving DecidableEq, Repr

/-- A shape in parentheses; a single extent is followed by a comma. -/
def shapeText (shape : List Nat) : String :=
  match shape with
  | [n] => s!"({n},)"
  | ns => "(" ++ String.intercalate ", " (ns.map toString) ++ ")"

def RenderError.message : RenderError → String
  | .scale n => s!"scale must be a positive integer, got {n}"
  | .shape extents => "Expected display shape (64, 32), got " ++ shapeText extents
  | .colour n =>
    if -0x8000000000000000 ≤ n ∧ n < 0x8000000000000000 then
      s!"Python integer {n} out of bounds for uint8"
    else "Python int too large to convert to C long"

namespace Image

/-- Every item `n` times in a row. -/
def repeatEach {α : Type} (n : Nat) (items : List α) : List α :=
  items.flatMap fun a => List.replicate n a

/-- Every pixel as a square of `n` by `n` pixels. -/
def upscale (n : Nat) (i : Image) : Image := ⟨repeatEach n (i.rows.map (repeatEach n))⟩

/-- One pixel for each of the 64 by 32 cells. -/
def ofCells (lit : Nat → Nat → Bool) (p : Palette) : Image :=
  ⟨(List.range 32).map fun y => (List.range 64).map fun x => if lit x y then p.lit else p.dark⟩

def height (i : Image) : Nat := i.rows.length

def width (i : Image) : Nat := (i.rows.head?.map List.length).getD 0

end Image

def colourPart (part : Int) : Except RenderError UInt8 :=
  if 0 ≤ part ∧ part ≤ 255 then .ok (UInt8.ofNat part.toNat) else .error (.colour part)

def ColourSpec.toColour (c : ColourSpec) : Except RenderError Colour :=
  match colourPart c.red, colourPart c.green, colourPart c.blue with
  | .ok red, .ok green, .ok blue => .ok ⟨red, green, blue⟩
  | .error e, _, _ => .error e
  | _, .error e, _ => .error e
  | _, _, .error e => .error e

/-- `display_to_rgb`: the picture of a grid. The dark colour is looked at first. -/
def render (g : Grid) (scale : Int) (lit dark : ColourSpec) : Except RenderError Image :=
  if scale < 1 then .error (.scale scale)
  else if g.shape ≠ [64, 32] then .error (.shape g.shape)
  else
    match dark.toColour, lit.toColour with
    | .ok d, .ok l => .ok ((Image.ofCells g.lit ⟨l, d⟩).upscale scale.toNat)
    | .error e, _ => .error e
    | _, .error e => .error e

end Chip8
