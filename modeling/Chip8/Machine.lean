import Chip8.CallStack
import Chip8.Fault
import Chip8.Keypad
import Chip8.RandomKey
import Chip8.Sprite

/-!
# The machine

All state of a CHIP-8 machine in one record. A new machine has the glyphs at
the bottom of memory and its program counter at the start of the program area.
-/
namespace Chip8

/-- The state of the machine. -/
structure Machine where
  memory : Memory
  /-- V0 to VF. -/
  regs : Registers
  /-- The index register I. -/
  index : UInt16
  pc : UInt16
  /-- The word fetched last. -/
  opcode : UInt16
  stack : CallStack
  display : Display
  /-- Set when the display was drawn on, until the host clears it. -/
  drawFlag : Bool
  delayTimer : UInt8
  soundTimer : UInt8
  /-- Set when the sound timer ran out, until the host clears it. -/
  soundFlag : Bool
  keypad : Keypad
  random : RandomKey
  edges : Edges
  deriving DecidableEq, Repr

structure ProgramTooLarge where
  size : Int
  limit : Int
  deriving DecidableEq, Repr

def ProgramTooLarge.message (e : ProgramTooLarge) : String :=
  s!"Program is {e.size} bytes, at most {e.limit} bytes fit in memory"

namespace Machine

def blank (random : RandomKey) (edges : Edges) : Machine where
  memory := Vector.replicate 4096 0
  regs := Vector.replicate 16 0
  index := 0
  pc := 0x200
  opcode := 0
  stack := CallStack.empty
  display := Display.blank
  drawFlag := false
  delayTimer := 0
  soundTimer := 0
  soundFlag := false
  keypad := Keypad.released
  random
  edges

/-- A machine as it starts, with the glyphs in memory. -/
def boot (random : RandomKey) (edges : Edges) : Machine :=
  let m := blank random edges
  { m with memory := overwrite m.memory fontStart font.toList }

/-- `load_program`: copies a program image to the start of the program area. -/
def load (m : Machine) (image : List UInt8) : Except ProgramTooLarge Machine :=
  if image.length ≤ maxProgramSize then
    .ok { m with memory := overwrite m.memory programStart image }
  else .error ⟨image.length, maxProgramSize⟩

/-- `next_random_byte`. -/
def nextRandomByte (m : Machine) : UInt8 × Machine :=
  (m.random.byte, { m with random := m.random.next })

def reg (m : Machine) (x : Fin 16) : UInt8 := m.regs.get x

def setReg (m : Machine) (x : Fin 16) (value : UInt8) : Machine :=
  { m with regs := put m.regs x value }

/-- Passes over the next instruction if the condition holds. -/
def skipIf (m : Machine) (condition : Bool) : Machine :=
  if condition then { m with pc := m.pc + 2 } else m

end Machine
end Chip8
