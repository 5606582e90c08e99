/-!
# Faults and outcomes

A step either completes or stops on one of five faults. `Outcome` is what a run
reports: the fault that stopped it, or none.
-/
namespace Chip8

/-- Why a step could not complete. -/
inductive Fault where
  /-- The word has no defined meaning. -/
  | unknownInstruction
  /-- A call with all sixteen stack slots in use. -/
  | stackOverflow
  /-- A return with no stack slot in use. -/
  | stackUnderflow
  /-- A block at I that reaches past the end of memory. -/
  | memoryOutOfBounds
  /-- A program counter from which no whole word can be fetched. -/
  | pcOutOfRange
  deriving DecidableEq, Repr

namespace Fault

def all : List Fault :=
  [.unknownInstruction, .stackOverflow, .stackUnderflow, .memoryOutOfBounds, .pcOutOfRange]

def name : Fault → String
  | .unknownInstruction => "UNKNOWN_INSTRUCTION"
  | .stackOverflow => "STACK_OVERFLOW"
  | .stackUnderflow => "STACK_UNDERFLOW"
  | .memoryOutOfBounds => "MEMORY_OUT_OF_BOUNDS"
  | .pcOutOfRange => "PC_OUT_OF_RANGE"

def describe : Fault → String
  | .unknownInstruction => "unknown instruction"
  | .stackOverflow => "stack overflow"
  | .stackUnderflow => "stack underflow"
  | .memoryOutOfBounds => "memory out of bounds"
  | .pcOutOfRange => "pc out of range"

end Fault

/-- How a step or a run ended. -/
inductive Outcome where
  | ok
  | fault (f : Fault)
  deriving DecidableEq, Repr

namespace Outcome

def name : Outcome → String
  | .ok => "OK"
  | .fault f => f.name

def code : Outcome → Nat
  | .ok => 0
  | .fault .unknownInstruction => 1
  | .fault .stackOverflow => 2
  | .fault .stackUnderflow => 3
  | .fault .memoryOutOfBounds => 4
  | .fault .pcOutOfRange => 5

structure CodeError where
  code : Int
  deriving DecidableEq, Repr

def CodeError.message (e : CodeError) : String := s!"{e.code} is not a valid Outcome"

def ofCode : Int → Except CodeError Outcome
  | 0 => .ok .ok
  | 1 => .ok (.fault .unknownInstruction)
  | 2 => .ok (.fault .stackOverflow)
  | 3 => .ok (.fault .stackUnderflow)
  | 4 => .ok (.fault .memoryOutOfBounds)
  | 5 => .ok (.fault .pcOutOfRange)
  | n => .error ⟨n⟩

theorem ofCode_code (o : Outcome) : ofCode o.code = .ok o := by
  cases o with
  | ok => rfl
  | fault f => cases f <;> rfl

end Outcome
end Chip8
