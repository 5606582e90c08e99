import Chip8.Memory

/-!
# The call stack

Sixteen slots and a pointer that counts the slots in use. A push keeps the low
twelve bits of the address; a pop clears the slot it frees, so that the unused
slots of a stack that started empty stay zero.
-/
namespace Chip8

/-- The call stack: its slots from the bottom, and how many are in use. -/
structure CallStack where
  slots : Vector UInt16 16
  depth : Nat
  depth_le : depth ≤ 16
  deriving DecidableEq, Repr

namespace CallStack

def empty : CallStack := ⟨Vector.replicate 16 0, 0, by decide⟩

def isEmpty (s : CallStack) : Bool := s.depth == 0

def isFull (s : CallStack) : Bool := s.depth == 16

/-- `push`: pushes an address, unless all slots are in use. -/
def push? (s : CallStack) (address : UInt16) : Option CallStack :=
  if h : s.depth < 16 then
    some ⟨s.slots.set s.depth (address &&& 0xFFF), s.depth + 1, h⟩
  else none

/-- `pop`: pops the address pushed last, unless no slot is in use. -/
def pop? (s : CallStack) : Option (UInt16 × CallStack) :=
  if h : 0 < s.depth then
    have hk : s.depth - 1 < 16 := by have := s.depth_le; omega
    some (s.slots[s.depth - 1], ⟨s.slots.set (s.depth - 1) 0, s.depth - 1, Nat.le_of_lt hk⟩)
  else none

/-- The stack with the given entries, from the bottom; only sixteen fit. -/
def ofList (entries : List UInt16) : CallStack :=
  ⟨overwrite (Vector.replicate 16 0) 0 entries, min entries.length 16, Nat.min_le_right ..⟩

theorem push?_eq_none_iff (s : CallStack) (a : UInt16) : s.push? a = none ↔ s.depth = 16 := by
  have := s.depth_le
  unfold push?
  split
  · simp; omega
  · simp; omega

theorem pop?_eq_none_iff (s : CallStack) : s.pop? = none ↔ s.depth = 0 := by
  unfold pop?
  split
  · simp; omega
  · simp; omega

end CallStack
end Chip8
