import Chip8.Arithmetic

/-!
# Instruction words

An instruction is one 16-bit word. `Fields.ofInt` cuts the low sixteen bits of
any integer, in two's complement, into the operand fields; `Instruction.ofInt?`
recognises the instruction. The family 0 has only the two words 00E0 and 00EE,
so it looks at the whole integer; every other family looks at the fields alone.
-/
namespace Chip8

/-! ## Registers -/

/-- VF, which takes the flags. -/
def vf : Fin 16 := 0xF

/-- V0, which BNNN adds to its target. -/
def v0 : Fin 16 := 0x0

/-! ## Operand fields -/

/-- The operand fields of an instruction word. -/
structure Fields where
  /-- The top nibble, which selects the instruction family. -/
  family : Fin 16
  /-- The second nibble, a register number. -/
  x : Fin 16
  /-- The third nibble, a register number. -/
  y : Fin 16
  /-- The last nibble. -/
  n : Fin 16
  /-- The last byte. -/
  nn : UInt8
  /-- The last twelve bits, an address. -/
  nnn : Fin 4096
  deriving DecidableEq, Repr

/-- `decode`: the fields of the low sixteen bits of `w` in two's complement. -/
def Fields.ofInt (w : Int) : Fields :=
  let bits := BitVec.ofInt 16 w
  { family := (bits.extractLsb' 12 4).toFin
    x := (bits.extractLsb' 8 4).toFin
    y := (bits.extractLsb' 4 4).toFin
    n := (bits.extractLsb' 0 4).toFin
    nn := ⟨bits.extractLsb' 0 8⟩
    nnn := (bits.extractLsb' 0 12).toFin }

/-! ## The instruction set -/

/-- The instructions of the machine, by what they do. -/
inductive Instruction where
  /-- 00E0: clear the display. -/
  | clear
  /-- 00EE: return from a subroutine. -/
  | ret
  /-- 1NNN: jump. -/
  | jump (target : Fin 4096)
  /-- 2NNN: call a subroutine. -/
  | call (target : Fin 4096)
  /-- 3XNN: skip if VX is NN. -/
  | skipEqByte (x : Fin 16) (nn : UInt8)
  /-- 4XNN: skip if VX is not NN. -/
  | skipNeByte (x : Fin 16) (nn : UInt8)
  /-- 5XY0: skip if VX and VY are equal. -/
  | skipEqReg (x y : Fin 16)
  /-- 6XNN: set VX to NN. -/
  | setByte (x : Fin 16) (nn : UInt8)
  /-- 7XNN: add NN to VX, without a flag. -/
  | addByte (x : Fin 16) (nn : UInt8)
  /-- 8XYN: combine VX and VY. -/
  | arith (op : Arith) (x y : Fin 16)
  /-- 9XY0: skip if VX and VY differ. -/
  | skipNeReg (x y : Fin 16)
  /-- ANNN: set I. -/
  | setIndex (target : Fin 4096)
  /-- BNNN: jump to NNN plus V0. -/
  | jumpOffset (target : Fin 4096)
  /-- CXNN: set VX to a random byte masked by NN. -/
  | random (x : Fin 16) (nn : UInt8)
  /-- DXYN: draw the N bytes at I as a sprite at (VX, VY). -/
  | draw (x y n : Fin 16)
  /-- EX9E: skip if the key VX is down. -/
  | skipPressed (x : Fin 16)
  /-- EXA1: skip if the key VX is up. -/
  | skipReleased (x : Fin 16)
  /-- FX07: set VX to the delay timer. -/
  | getDelay (x : Fin 16)
  /-- FX0A: wait for a key and put it into VX. -/
  | waitKey (x : Fin 16)
  /-- FX15: set the delay timer to VX. -/
  | setDelay (x : Fin 16)
  /-- FX18: set the sound timer to VX. -/
  | setSound (x : Fin 16)
  /-- FX1E: add VX to I. -/
  | addIndex (x : Fin 16)
  /-- FX29: point I at the glyph for VX. -/
  | glyph (x : Fin 16)
  /-- FX33: store the three decimal digits of VX at I. -/
  | decimal (x : Fin 16)
  /-- FX55: store V0 to VX at I. -/
  | store (x : Fin 16)
  /-- FX65: load V0 to VX from I. -/
  | load (x : Fin 16)
  deriving DecidableEq, Repr

namespace Instruction

/-- The FXNN instruction that the last byte selects. -/
def ofMisc? (x : Fin 16) (nn : UInt8) : Option Instruction :=
  match nn with
  | 0x07 => some (.getDelay x)
  | 0x0A => some (.waitKey x)
  | 0x15 => some (.setDelay x)
  | 0x18 => some (.setSound x)
  | 0x1E => some (.addIndex x)
  | 0x29 => some (.glyph x)
  | 0x33 => some (.decimal x)
  | 0x55 => some (.store x)
  | 0x65 => some (.load x)
  | _ => none

/-- The instruction that a word stands for, if it stands for one. -/
def ofInt? (w : Int) : Option Instruction :=
  let f := Fields.ofInt w
  match f.family with
  | 0x0 => if w = 0x00E0 then some .clear else if w = 0x00EE then some .ret else none
  | 0x1 => some (.jump f.nnn)
  | 0x2 => some (.call f.nnn)
  | 0x3 => some (.skipEqByte f.x f.nn)
  | 0x4 => some (.skipNeByte f.x f.nn)
  | 0x5 => if f.n = 0 then some (.skipEqReg f.x f.y) else none
  | 0x6 => some (.setByte f.x f.nn)
  | 0x7 => some (.addByte f.x f.nn)
  | 0x8 => (Arith.ofNibble? f.n).map (.arith · f.x f.y)
  | 0x9 => if f.n = 0 then some (.skipNeReg f.x f.y) else none
  | 0xA => some (.setIndex f.nnn)
  | 0xB => some (.jumpOffset f.nnn)
  | 0xC => some (.random f.x f.nn)
  | 0xD => some (.draw f.x f.y f.n)
  | 0xE => if f.nn = 0x9E then some (.skipPressed f.x)
      else if f.nn = 0xA1 then some (.skipReleased f.x) else none
  -- the one family left is 0xF
  | _ => ofMisc? f.x f.nn

end Instruction
end Chip8
