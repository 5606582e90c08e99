import Chip8.Machine
import Chip8.Text.Padded

/-!
# Telling the host about a fault

After a fault the machine is unchanged, so its program counter still points at
the offending instruction. A `FaultReport` attaches that address and the word
there; the word is missing exactly when it does not lie in memory.
-/
namespace Chip8

/-- The kinds of errors that a host can raise. -/
inductive FaultClass where
  | unknownInstruction | stackOverflow | stackUnderflow | memoryAccess | programCounter
  /-- A fault of no particular kind. -/
  | unspecified
  deriving DecidableEq, Repr

namespace FaultClass

def name : FaultClass → String
  | .unknownInstruction => "UnknownInstructionError"
  | .stackOverflow => "StackOverflowError"
  | .stackUnderflow => "StackUnderflowError"
  | .memoryAccess => "MemoryAccessError"
  | .programCounter => "ProgramCounterError"
  | .unspecified => "EmulationFault"

/-- The fault that errors of a kind stand for, their `outcome`. -/
def fault? : FaultClass → Option Fault
  | .unknownInstruction => some .unknownInstruction
  | .stackOverflow => some .stackOverflow
  | .stackUnderflow => some .stackUnderflow
  | .memoryAccess => some .memoryOutOfBounds
  | .programCounter => some .pcOutOfRange
  | .unspecified => none

/-- `FAULT_EXCEPTIONS`: the kind of error that a fault is raised as. -/
def raisedFor : Fault → FaultClass
  | .unknownInstruction => .unknownInstruction
  | .stackOverflow => .stackOverflow
  | .stackUnderflow => .stackUnderflow
  | .memoryOutOfBounds => .memoryAccess
  | .pcOutOfRange => .programCounter

/-- A fault is raised as the one kind of error that stands for it. -/
theorem fault?_eq_some_iff (c : FaultClass) (f : Fault) :
    c.fault? = some f ↔ c = raisedFor f := by
  cases c <;> cases f <;> decide

end FaultClass

/-- An error about a fault, with the word that was refused and its address as far as they
are known. -/
structure FaultReport where
  kind : FaultClass
  opcode : Option Int
  pc : Option Int
  deriving DecidableEq, Repr

namespace FaultReport

/-- The known details, in the order in which they are told. -/
def details (r : FaultReport) : List String :=
  (r.opcode.map fun w => "opcode 0x" ++ Text.hex 4 w).toList ++
    (r.pc.map fun a => "pc 0x" ++ Text.hex 3 a).toList

/-- The fault that the error stands for. -/
def fault (r : FaultReport) : Option Fault := r.kind.fault?

def message (r : FaultReport) : String :=
  let name := match r.fault with
    | none => "fault"
    | some f => f.describe
  match r.details with
  | [] => name
  | ds => name ++ " (" ++ String.intercalate ", " ds ++ ")"

end FaultReport

namespace Machine

/-- The word at the program counter, if it lies in memory. -/
def currentWord? (m : Machine) : Option UInt16 := m.memory.word? m.pc.toNat

/-- The report of a fault of a step of this machine. -/
def report (m : Machine) (f : Fault) : FaultReport :=
  { kind := .raisedFor f
    opcode := m.currentWord?.map fun w => (w.toNat : Int)
    pc := some m.pc.toNat }

/-- The line of `log_fault` about an outcome of this machine. -/
def faultLine (m : Machine) (o : Outcome) : String :=
  let word := match m.currentWord? with
    | none => "----"
    | some w => "0x" ++ Text.hex 4 w.toNat
  let pc := Text.hex 3 m.pc.toNat
  s!"{o.name} at pc=0x{pc} (opcode {word})"

end Machine

/-- The report of an outcome, with the details of the machine if there is one.
Completion has no report. -/
def Outcome.report? (o : Outcome) (m : Option Machine) : Option FaultReport :=
  match o with
  | .ok => none
  | .fault f =>
    match m with
    | none => some ⟨.raisedFor f, none, none⟩
    | some m => some (m.report f)

/-- `raise_for_outcome`: the report of the outcome with the given number; a number that no
outcome has is an error. -/
def Outcome.reportOfCode (code : Int) (m : Option Machine) :
    Except CodeError (Option FaultReport) :=
  match ofCode code with
  | .error e => .error e
  | .ok o => .ok (o.report? m)

end Chip8
