import Chip8.Proofs.Step

/-!
# Work that is kept or dropped

A machine can also be built so that every instruction runs to its end before it
is known whether it may run at all. Registers and rows of pixels are then moved
sixteen at a time and picked by a mask, the stack pointer steps past either end
of the stack, and an undefined word runs through the circuits of its family. A
`Draft` is what such a machine has computed; it replaces the old state only if
there was no fault.

Such a machine reads outside of its storage. What it finds there is up to a
`Bus`, which may answer each reading place and each address as it likes. What it
writes there is lost.

`Machine.executeOn` and `Machine.stepOn` are the execution of a word and the step
of this machine.
-/
namespace Chip8

/-! ## Reading -/

/-- The places of a program that can read outside of the memory. -/
inductive Port
  /-- The fetch of the high or of the low byte of a word. -/
  | opcode (low : Bool)
  /-- The transfer of one register. -/
  | lane (j : Fin 16)
  /-- The sprite row that one cell of the display falls on. -/
  | cell (x : Fin 64) (y : Fin 32)

/-- What reads outside of the storage yield. -/
structure Bus where
  byte : Port → Nat → UInt8
  slot : Nat → UInt16

/-- The bus on which every read outside yields zero. -/
def Bus.zero : Bus := ⟨fun _ _ => 0, fun _ => 0⟩

variable {α : Type} {n : Nat}

/-- The item at an index, or what lies outside. -/
def peek (v : Vector α n) (outside : Nat → α) (k : Nat) : α :=
  if h : k < n then v[k] else outside k

theorem peek_of_lt {v : Vector α n} {outside : Nat → α} {k : Nat} (h : k < n) :
    peek v outside k = v[k] := dif_pos h

/-! ## Drafts -/

/-- The parts of a machine. The stack pointer can be any byte. -/
structure Draft where
  memory : Memory
  regs : Registers
  index : UInt16
  pc : UInt16
  opcode : UInt16
  slots : Vector UInt16 16
  pointer : UInt8
  display : Display
  drawFlag : Bool
  delayTimer : UInt8
  soundTimer : UInt8
  soundFlag : Bool
  keypad : Keypad
  random : RandomKey
  edges : Edges

/-- A draft and whether it counts. -/
structure Attempt where
  draft : Draft
  outcome : Outcome

def Outcome.faultIf (c : Prop) [Decidable c] (f : Fault) : Outcome := if c then .fault f else .ok

/-- Keeps the draft of an attempt without a fault, and the previous one otherwise. -/
def Attempt.commit (previous : Draft) (a : Attempt) : Attempt :=
  match a.outcome with
  | .ok => a
  | .fault f => ⟨previous, .fault f⟩

/-- How far a coordinate lies beyond a sprite's corner, which can be negative if
what crosses the edge is cut off. -/
def Edges.shift (e : Edges) (size corner cell : Nat) : Int :=
  match e with
  | .clip => (cell : Int) - corner
  | .wrap => ((cell : Int) - corner) % size

/-- The next lower or higher integer in 0 to `top`. -/
def clamp (top : Nat) (k : Int) : Nat := min k.toNat top

/-- The instruction whose circuits an undefined word runs through, if its family
has any. -/
def Fields.stray? (f : Fields) : Option Instruction :=
  match f.family with
  | 0x5 => some (.skipEqReg f.x f.y)
  | 0x8 => some (.arith .copy f.x f.y)
  | 0x9 => some (.skipNeReg f.x f.y)
  | 0xE => some (.skipReleased f.x)
  | _ => none

namespace Machine

def draft (m : Machine) : Draft :=
  { m with slots := m.stack.slots, pointer := UInt8.ofNat m.stack.depth }

/-- What a machine is left with: the new one, or the old one after a fault. -/
def settle (m : Machine) : Except Fault Machine → Attempt
  | .ok t => ⟨t.draft, .ok⟩
  | .error f => ⟨m.draft, .fault f⟩

/-- The bus on which every read outside yields the last item of the storage. -/
def lastItems (m : Machine) : Bus := ⟨fun _ _ => m.memory[4095], fun _ => m.stack.slots[15]⟩

/-! ## Instructions in full -/

/-- The cells that a sprite covers, each with its own look into memory. -/
def mask (m : Machine) (bus : Bus) (x y n : Fin 16) : CellSet := fun cx cy =>
  let col := m.edges.shift 64 (m.reg x).toNat cx
  let row := m.edges.shift 32 (m.reg y).toNat cy
  let byte := peek m.memory (bus.byte (.cell cx cy)) (m.index.toNat + clamp 15 row)
  byte.toNat.testBit (7 - clamp 7 col) &&
    decide (0 ≤ col ∧ col < 8 ∧ 0 ≤ row ∧ row < (n : Nat))

/-- What a transfer of all registers finds in memory at the place of one of them. -/
def transfer (m : Machine) (bus : Bus) (j : Fin 16) : UInt8 :=
  peek m.memory (bus.byte (.lane j)) (m.index.toNat + j)

def attempt (m : Machine) (bus : Bus) (i : Instruction) : Attempt :=
  let d := m.draft
  match i with
  | .ret =>
    let top := d.pointer - 1
    ⟨{ d with
        pc := peek d.slots bus.slot top.toNat + 2
        slots := d.slots.setIfInBounds top.toNat 0
        pointer := top },
      .faultIf (d.pointer = 0) .stackUnderflow⟩
  | .call target =>
    ⟨{ d with
        pc := UInt16.ofNat target
        slots := d.slots.setIfInBounds d.pointer.toNat ((d.pc - 2) &&& 0xFFF)
        pointer := d.pointer + 1 },
      .faultIf (16 ≤ d.pointer) .stackOverflow⟩
  | .draw x y n =>
    let cells := m.mask bus x y n
    ⟨{ d with
        regs := put d.regs vf (Arith.flagOf (d.display.meets cells))
        display := d.display.toggle cells
        drawFlag := true },
      .faultIf (4096 < d.index.toNat + n) .memoryOutOfBounds⟩
  | .decimal x =>
    ⟨{ d with memory := overwrite d.memory d.index.toNat (decimalDigits (m.reg x)) },
      .faultIf (4096 < d.index.toNat + 3) .memoryOutOfBounds⟩
  | .store x =>
    ⟨{ d with
        memory := overwrite d.memory d.index.toNat
          (List.ofFn fun j => if j ≤ x then m.reg j else m.transfer bus j) },
      .faultIf (4096 < d.index.toNat + (x + 1)) .memoryOutOfBounds⟩
  | .load x =>
    ⟨{ d with regs := Vector.ofFn fun j => if j ≤ x then m.transfer bus j else m.reg j },
      .faultIf (4096 < d.index.toNat + (x + 1)) .memoryOutOfBounds⟩
  -- the others stay inside of the storage, and nothing stops them
  | i => m.settle (m.perform i)

/-! ## Words and steps in full -/

/-- Runs a word through the circuits of its family. -/
def attemptWord (m : Machine) (bus : Bus) (w : Int) : Attempt :=
  match Instruction.ofInt? w with
  | some i => m.attempt bus i
  | none =>
    match (Fields.ofInt w).stray? with
    | none => ⟨m.draft, .fault .unknownInstruction⟩
    | some i => ⟨(m.attempt bus i).draft, .fault .unknownInstruction⟩

def executeOn (m : Machine) (bus : Bus) (w : Int) : Attempt :=
  (m.attemptWord bus w).commit m.draft

/-- The word at the program counter. The address of its low byte wraps. -/
def fetchOn (m : Machine) (bus : Bus) : UInt16 :=
  bigEndian (peek m.memory (bus.byte (.opcode false)) m.pc.toNat)
    (peek m.memory (bus.byte (.opcode true)) (m.pc + 1).toNat)

/-- Executes whatever was fetched, and drops it if there was nothing to fetch. -/
def stepOn (m : Machine) (bus : Bus) : Attempt :=
  let w := m.fetchOn bus
  let a := (m.fetched w).executeOn bus w.toNat
  Attempt.commit m.draft
    ⟨a.draft, if 0xFFE < m.pc.toNat then .fault .pcOutOfRange else a.outcome⟩

end Machine
end Chip8
