import Chip8.Display

/-!
# Sprites

A sprite is up to fifteen rows of eight cells, one byte a row, placed by its
upper left corner. A corner can lie anywhere in 0 to 255, so a sprite can reach
past the right and lower edges of the display; `Edges` says what happens to the
cells that do.

Offsets are measured from the corner to a cell of the display: a cell belongs
to the sprite when the byte at its row offset has a one at its column offset.
-/
namespace Chip8

/-- What happens to the part of a sprite that crosses an edge of the display. -/
inductive Edges where
  /-- It is cut off. -/
  | clip
  /-- It comes back in at the opposite edge. -/
  | wrap
  deriving DecidableEq, Repr

/-- How far a coordinate lies beyond a sprite's corner, on an axis of `size`
cells. Under clipping the cells before the corner have no offset. -/
def Edges.offset? (e : Edges) (size corner cell : Nat) : Option Nat :=
  match e with
  | .clip => if corner ≤ cell then some (cell - corner) else none
  | .wrap => some (((cell : Int) - (corner : Int)) % (size : Int)).toNat

structure Sprite where
  x : Nat
  y : Nat
  rows : List UInt8
  deriving DecidableEq, Repr

namespace Sprite

/-- Whether the sprite's picture has a one in column `c` of row `r`; there are
none past the eighth column or the last row. -/
def bit (s : Sprite) (c r : Nat) : Bool :=
  match s.rows[r]? with
  | none => false
  | some byte => byte.toBitVec.getMsbD c

/-- The cells of the display that the sprite covers. -/
def cells (s : Sprite) (e : Edges) : CellSet := fun x y =>
  match e.offset? 32 s.y y.val with
  | none => false
  | some r =>
    r < s.rows.length && match e.offset? 64 s.x x.val with
      | none => false
      | some c => s.bit c r

end Sprite
end Chip8
