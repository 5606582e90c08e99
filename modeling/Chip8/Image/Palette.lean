/-!
# Colours

A palette gives the colour of lit and of dark cells. Five palettes have names.
-/
namespace Chip8

structure Colour where
  red : UInt8
  green : UInt8
  blue : UInt8
  deriving DecidableEq, Repr

def Colour.black : Colour := ⟨0, 0, 0⟩

structure Palette where
  lit : Colour
  dark : Colour
  deriving DecidableEq, Repr

structure SchemeError where
  name : String
  deriving DecidableEq, Repr

namespace Palette

def classic : Palette := ⟨⟨0, 255, 0⟩, .black⟩

/-- `COLOR_SCHEMES`. -/
def named : List (String × Palette) := [
  ("classic", classic),
  ("amber", ⟨⟨255, 176, 0⟩, .black⟩),
  ("white", ⟨⟨255, 255, 255⟩, .black⟩),
  ("blue", ⟨⟨0, 255, 255⟩, ⟨0, 0, 64⟩⟩),
  ("retro", ⟨⟨255, 255, 0⟩, ⟨64, 0, 64⟩⟩)]

/-- `create_color_scheme`: the palette with the given name. -/
def ofName (name : String) : Except SchemeError Palette :=
  match named.lookup name with
  | some p => .ok p
  | none => .error ⟨name⟩

end Palette

def SchemeError.message (e : SchemeError) : String :=
  let available := String.intercalate ", " (Palette.named.map fun p => "'" ++ p.1 ++ "'")
  s!"Unknown color scheme '{e.name}'. Available: [{available}]"

end Chip8
