import Chip8.Step

/-!
# What an instruction leaves alone

`Machine.writes` is the frame table of the instruction set: the parts of the
machine that each instruction may write. Everything else is unchanged
(`perform_frame`), so a fact about one part of the machine needs only the
instructions that write it.
-/
namespace Chip8
namespace Machine

/-- The machine `m` with those parts of `m'` that an instruction may write. -/
def writes (m m' : Machine) : Instruction → Machine
  | .clear => { m with display := m'.display, drawFlag := m'.drawFlag }
  | .ret | .call _ => { m with stack := m'.stack, pc := m'.pc }
  | .jump _ | .jumpOffset _ => { m with pc := m'.pc }
  | .skipEqByte .. | .skipNeByte .. | .skipEqReg .. | .skipNeReg .. => { m with pc := m'.pc }
  | .skipPressed _ | .skipReleased _ => { m with pc := m'.pc }
  | .setByte .. | .addByte .. | .arith .. => { m with regs := m'.regs }
  | .getDelay _ | .load _ => { m with regs := m'.regs }
  | .waitKey _ => { m with regs := m'.regs, pc := m'.pc }
  | .random .. => { m with regs := m'.regs, random := m'.random }
  | .draw .. => { m with regs := m'.regs, display := m'.display, drawFlag := m'.drawFlag }
  | .setIndex _ | .addIndex _ | .glyph _ => { m with index := m'.index }
  | .setDelay _ => { m with delayTimer := m'.delayTimer }
  | .setSound _ => { m with soundTimer := m'.soundTimer }
  | .decimal _ | .store _ => { m with memory := m'.memory }

theorem frame_skipIf (m : Machine) (c : Bool) :
    { m with pc := (m.skipIf c).pc } = m.skipIf c := by
  cases c <;> rfl

theorem frame_combine (m : Machine) (op : Arith) (x y : Fin 16) :
    { m with regs := (m.combine op x y).regs } = m.combine op x y := by
  simp only [combine]
  split <;> rfl

theorem perform_frame {m m' : Machine} {i : Instruction} (h : m.perform i = .ok m') :
    m.writes m' i = m' := by
  cases i
  case ret | call | draw | decimal | store | load =>
    simp only [perform] at h
    split at h <;> cases h
    rfl
  case waitKey =>
    simp only [perform] at h
    split at h <;> cases h <;> rfl
  case arith op x y => cases h; exact frame_combine m op x y
  case skipEqByte | skipNeByte | skipEqReg | skipNeReg | skipPressed | skipReleased =>
    cases h; exact frame_skipIf m _
  all_goals cases h; rfl

end Machine
end Chip8
