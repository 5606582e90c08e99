import Chip8.Instruction
import Chip8.Machine

/-!
# Executing instructions

`Machine.perform` carries out one instruction, `Machine.execute` one word, and
`Machine.step` fetches the word at the program counter and executes it. Each
yields the new machine or the fault that stopped it; a fault carries no machine,
because it changes nothing.

A word that a host hands over is taken as a signed number of 32 bits. One that is none
is refused by `Machine.executeWord` before anything is executed, which is not a fault.

Registers wrap at their width: 2^8 for V and the timers, 2^16 for I and the
program counter. Blocks at I do not wrap; one that reaches past the end of
memory is a fault.
-/
namespace Chip8

/-- A word that is no signed number of 32 bits. -/
structure WordError where
  word : Int
  deriving DecidableEq, Repr

def WordError.message (e : WordError) : String :=
  s!"Python int {e.word} too large to convert to int32"

/-- The word, if it is a signed number of 32 bits. -/
def takeWord (w : Int) : Except WordError Int :=
  if -0x80000000 ≤ w ∧ w < 0x80000000 then .ok w else .error ⟨w⟩

namespace Machine

/-- Combines VX and VY. The flag is written last, so it wins when X is F. -/
def combine (m : Machine) (op : Arith) (x y : Fin 16) : Machine :=
  let a := m.reg x
  let b := m.reg y
  let m' := m.setReg x (op.result a b)
  match op.flag a b with
  | none => m'
  | some f => m'.setReg vf f

/-- Draws a sprite. VF tells whether a lit cell was covered; the corner is read
before VF is written. -/
def drawSprite (m : Machine) (x y : Fin 16) (rows : List UInt8) : Machine :=
  let sprite : Sprite := ⟨(m.reg x).toNat, (m.reg y).toNat, rows⟩
  let cells := sprite.cells m.edges
  { m.setReg vf (Arith.flagOf (m.display.meets cells)) with
    display := m.display.toggle cells
    drawFlag := true }

def decimalDigits (value : UInt8) : List UInt8 := [value / 100, value / 10 % 10, value % 10]

def keyDown (m : Machine) (x : Fin 16) : Bool :=
  m.keypad.isDown ⟨(m.reg x).toNat % 16, Nat.mod_lt _ (by decide)⟩

/-- Carries out one instruction. The program counter is already past it. -/
def perform (m : Machine) : Instruction → Except Fault Machine
  | .clear => .ok { m with display := Display.blank, drawFlag := true }
  | .ret =>
    match m.stack.pop? with
    | none => .error .stackUnderflow
    | some (address, stack) => .ok { m with stack, pc := address + 2 }
  | .jump target => .ok { m with pc := UInt16.ofNat target }
  | .call target =>
    match m.stack.push? (m.pc - 2) with
    | none => .error .stackOverflow
    | some stack => .ok { m with stack, pc := UInt16.ofNat target }
  | .skipEqByte x nn => .ok (m.skipIf (m.reg x == nn))
  | .skipNeByte x nn => .ok (m.skipIf (m.reg x != nn))
  | .skipEqReg x y => .ok (m.skipIf (m.reg x == m.reg y))
  | .skipNeReg x y => .ok (m.skipIf (m.reg x != m.reg y))
  | .setByte x nn => .ok (m.setReg x nn)
  | .addByte x nn => .ok (m.setReg x (m.reg x + nn))
  | .arith op x y => .ok (m.combine op x y)
  | .setIndex target => .ok { m with index := UInt16.ofNat target }
  | .jumpOffset target => .ok { m with pc := UInt16.ofNat target + (m.reg v0).toUInt16 }
  | .random x nn =>
    let (byte, m') := m.nextRandomByte
    .ok (m'.setReg x (byte &&& nn))
  | .draw x y n =>
    match readBlock? m.memory m.index.toNat n with
    | none => .error .memoryOutOfBounds
    | some rows => .ok (m.drawSprite x y rows)
  | .skipPressed x => .ok (m.skipIf (m.keyDown x))
  | .skipReleased x => .ok (m.skipIf (!m.keyDown x))
  | .getDelay x => .ok (m.setReg x m.delayTimer)
  | .waitKey x =>
    match m.keypad.highest? with
    | none => .ok { m with pc := m.pc - 2 }
    | some key => .ok (m.setReg x (UInt8.ofNat key))
  | .setDelay x => .ok { m with delayTimer := m.reg x }
  | .setSound x => .ok { m with soundTimer := m.reg x }
  | .addIndex x => .ok { m with index := m.index + (m.reg x).toUInt16 }
  | .glyph x => .ok { m with index := UInt16.ofNat (fontStart + glyphSize * (m.reg x).toNat) }
  | .decimal x =>
    match writeBlock? m.memory m.index.toNat (decimalDigits (m.reg x)) with
    | none => .error .memoryOutOfBounds
    | some memory => .ok { m with memory }
  | .store x =>
    match writeBlock? m.memory m.index.toNat (m.regs.toList.take (x + 1)) with
    | none => .error .memoryOutOfBounds
    | some memory => .ok { m with memory }
  | .load x =>
    match readBlock? m.memory m.index.toNat (x + 1) with
    | none => .error .memoryOutOfBounds
    | some bytes => .ok { m with regs := overwrite m.regs 0 bytes }

/-- Executes one word, once it was taken, as an instruction. -/
def execute (m : Machine) (w : Int) : Except Fault Machine :=
  match Instruction.ofInt? w with
  | none => .error .unknownInstruction
  | some i => m.perform i

/-- `execute`: executes a word that a host hands over. -/
def executeWord (m : Machine) (w : Int) : Except WordError (Except Fault Machine) :=
  match takeWord w with
  | .error e => .error e
  | .ok w => .ok (m.execute w)

/-- `fetch`: the word at the program counter, which is recorded. -/
def fetch (m : Machine) : Except Fault (UInt16 × Machine) :=
  match m.memory.word? m.pc.toNat with
  | none => .error .pcOutOfRange
  | some w => .ok (w, { m with pc := m.pc + 2, opcode := w })

/-- `step`: fetches and executes one instruction. -/
def step (m : Machine) : Except Fault Machine :=
  match m.fetch with
  | .error f => .error f
  | .ok (w, m') => m'.execute w.toNat

/-- The machine after a step, which is the same machine after a fault. -/
def afterStep (m : Machine) : Machine :=
  match m.step with
  | .ok m' => m'
  | .error _ => m

end Machine

/-- The outcome that a result reports. -/
def Outcome.ofExcept {α : Type} : Except Fault α → Outcome
  | .ok _ => .ok
  | .error f => .fault f

theorem Outcome.ofExcept_eq_ok_iff {α : Type} {r : Except Fault α} :
    ofExcept r = .ok ↔ ∃ a, r = .ok a := by
  cases r <;> simp [ofExcept]

theorem Outcome.ofExcept_eq_fault_iff {α : Type} {r : Except Fault α} {f : Fault} :
    ofExcept r = .fault f ↔ r = .error f := by
  cases r <;> simp [ofExcept]

end Chip8
