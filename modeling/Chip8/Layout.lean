/-!
# The layout of memory

A CHIP-8 machine has 4096 bytes of memory. Programs are loaded at 0x200; the sixteen
hexadecimal glyphs lie at the bottom, five bytes each. Other sizes (sixteen registers,
sixteen levels of calls, sixteen keys, 64 by 32 cells) are in the types of the modules
that they belong to.
-/
namespace Chip8

def memorySize : Nat := 4096

/-- Programs are loaded and started at this address. -/
def programStart : Nat := 0x200

/-- The longest program that fits between `programStart` and the end of memory. -/
def maxProgramSize : Nat := memorySize - programStart

/-- The timers count down sixty times a second. -/
def timerFrequency : Nat := 60

def fontStart : Nat := 0
def glyphSize : Nat := 5

/-- The glyphs 0 to F, five rows each, the picture in the high four bits. -/
def font : Vector UInt8 80 := #v[
  0xF0, 0x90, 0x90, 0x90, 0xF0,
  0x20, 0x60, 0x20, 0x20, 0x70,
  0xF0, 0x10, 0xF0, 0x80, 0xF0,
  0xF0, 0x10, 0xF0, 0x10, 0xF0,
  0x90, 0x90, 0xF0, 0x10, 0x10,
  0xF0, 0x80, 0xF0, 0x10, 0xF0,
  0xF0, 0x80, 0xF0, 0x90, 0xF0,
  0xF0, 0x10, 0x20, 0x40, 0x40,
  0xF0, 0x90, 0xF0, 0x90, 0xF0,
  0xF0, 0x90, 0xF0, 0x10, 0xF0,
  0xF0, 0x90, 0xF0, 0x90, 0x90,
  0xE0, 0x90, 0xE0, 0x90, 0xE0,
  0xF0, 0x80, 0x80, 0x80, 0xF0,
  0xE0, 0x90, 0x90, 0x90, 0xE0,
  0xF0, 0x80, 0xF0, 0x80, 0xF0,
  0xF0, 0x80, 0xF0, 0x80, 0x80]

end Chip8
