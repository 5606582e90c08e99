import Chip8.Proofs.Flow

/-!
# The frame table

A machine is made of parts (`Part`): the cells of memory and the registers one
by one, and every other field as a whole. Two machines that agree on all parts
are equal, so a statement about every part leaves nothing out.

`Machine.changes` is the frame table of the instruction set, a row for each
part: the instructions that may change it. Blocks in memory and in the register
file have their bounds, the jumps and the skips their conditions.

Results:
* `eq_of_kept`: the parts make up the machine.
* `cell_perform`, `reg_perform`, `pc_perform`: the rows of memory, of the
  registers and of the program counter.
* `perform_keeps`: an instruction changes nothing outside of its entries.
* `execute_confined`: the same of words and steps, where a step also moves on
  and records its word.
-/
namespace Chip8

/-- The operations that write a flag, 8XY4 to 8XY7 and 8XYE. -/
def Arith.reports : Arith → Bool
  | .copy | .or | .and | .xor => false
  | .add | .sub | .shiftRight | .subFrom | .shiftLeft => true

theorem Arith.flag_of_not_reports {op : Arith} (h : op.reports = false) (a b : UInt8) :
    op.flag a b = none := by
  cases op <;> first | rfl | cases h

/-- The instructions that change the display, 00E0 and DXYN. -/
def Instruction.paints : Instruction → Bool
  | .clear | .draw .. => true
  | _ => false

/-- The instruction that takes a random byte, CXNN. -/
def Instruction.isRandom : Instruction → Bool
  | .random .. => true
  | _ => false

inductive Part
  | cell (a : Fin 4096)
  | register (j : Fin 16)
  | index
  | pc
  | opcode
  | stack
  | display
  | drawFlag
  | delayTimer
  | soundTimer
  | soundFlag
  | keypad
  | random
  | edges
  deriving DecidableEq, Repr

namespace Machine

/-! ## Parts -/

/-- The machine `t` holds in a part what `m` holds. -/
def Kept (m t : Machine) : Part → Prop
  | .cell a => t.memory.get a = m.memory.get a
  | .register j => t.reg j = m.reg j
  | .index => t.index = m.index
  | .pc => t.pc = m.pc
  | .opcode => t.opcode = m.opcode
  | .stack => t.stack = m.stack
  | .display => t.display = m.display
  | .drawFlag => t.drawFlag = m.drawFlag
  | .delayTimer => t.delayTimer = m.delayTimer
  | .soundTimer => t.soundTimer = m.soundTimer
  | .soundFlag => t.soundFlag = m.soundFlag
  | .keypad => t.keypad = m.keypad
  | .random => t.random = m.random
  | .edges => t.edges = m.edges

theorem eq_of_kept {m t : Machine} (h : ∀ p, m.Kept t p) : t = m := by
  have hmemory : t.memory = m.memory := Vector.ext fun k hk => h (.cell ⟨k, hk⟩)
  have hregs : t.regs = m.regs := Vector.ext fun k hk => h (.register ⟨k, hk⟩)
  exact (Machine.mk.injEq ..).mpr ⟨hmemory, hregs, h .index, h .pc, h .opcode, h .stack,
    h .display, h .drawFlag, h .delayTimer, h .soundTimer, h .soundFlag, h .keypad, h .random,
    h .edges⟩

/-! ## The table -/

/-- The memory row: FX33 may change the three cells at I, and FX55 those from I
to I+X. -/
def storesAt (m : Machine) (a : Fin 4096) : Instruction → Bool
  | .decimal _ => m.index.toNat ≤ a && a < m.index.toNat + 3
  | .store x => m.index.toNat ≤ a && a ≤ m.index.toNat + x
  | _ => false

/-- The register row. FX0A sets a register only if a key is down. -/
def sets (m : Machine) (j : Fin 16) : Instruction → Bool
  | .setByte x _ | .addByte x _ | .random x _ | .getDelay x => j == x
  | .waitKey x => j == x && !m.keypad.pressed.isEmpty
  | .arith op x _ => j == x || (j == vf && op.reports)
  | .draw .. => j == vf
  | .load x => j ≤ x
  | _ => false

/-- The row of the program counter. FX0A goes back only if no key is down, and
the skips move on only if they are taken. -/
def redirects (m : Machine) : Instruction → Bool
  | .ret | .jump _ | .call _ | .jumpOffset _ => true
  | .waitKey _ => m.keypad.pressed.isEmpty
  | i => m.skips i

/-- Whether an instruction may change a part. -/
def changes (m : Machine) (i : Instruction) : Part → Bool
  | .cell a => m.storesAt a i
  | .register j => m.sets j i
  | .pc => m.redirects i
  | .index => match i with
    | .setIndex _ | .addIndex _ | .glyph _ => true
    | _ => false
  | .stack => match i with
    | .ret | .call _ => true
    | _ => false
  | .display | .drawFlag => i.paints
  | .delayTimer => match i with
    | .setDelay _ => true
    | _ => false
  | .soundTimer => match i with
    | .setSound _ => true
    | _ => false
  | .random => i.isRandom
  | .opcode | .soundFlag | .keypad | .edges => false

/-! ## Memory -/

theorem get_overwrite_of_outside {v : Memory} {start : Nat} {items : List UInt8} {a : Fin 4096}
    (h : ¬ (start ≤ a ∧ a < start + items.length)) : (overwrite v start items).get a = v.get a :=
  getElem_overwrite_of_outside (by omega)

theorem cell_perform {m t : Machine} {i : Instruction} (h : m.perform i = .ok t) {a : Fin 4096}
    (ha : m.storesAt a i = false) : t.memory.get a = m.memory.get a := by
  have hf := perform_frame h
  cases i with
  | decimal x =>
    simp only [perform] at h
    split at h
    · cases h
    · rename_i memory hw
      cases h
      simp only [storesAt, Bool.and_eq_false_iff, decide_eq_false_iff_not] at ha
      rw [writeBlock?_eq_some hw, get_overwrite_of_outside]
      simp only [decimalDigits, List.length_cons, List.length_nil]
      omega
  | store x =>
    simp only [perform] at h
    split at h
    · cases h
    · rename_i memory hw
      cases h
      simp only [storesAt, Bool.and_eq_false_iff, decide_eq_false_iff_not] at ha
      rw [writeBlock?_eq_some hw, get_overwrite_of_outside]
      rw [List.length_take, Vector.length_toList]
      omega
  -- the others do not write memory
  | _ => exact (congrArg (fun s : Machine => s.memory.get a) hf).symm

/-! ## Registers -/

theorem reg_setReg_of_ne {m : Machine} {x j : Fin 16} (h : j ≠ x) (v : UInt8) :
    (m.setReg x v).reg j = m.reg j :=
  Vector.getElem_set_ne x.isLt j.isLt fun hx => h (Fin.ext hx.symm)

theorem reg_setReg_self (m : Machine) (x : Fin 16) (v : UInt8) : (m.setReg x v).reg x = v :=
  Vector.getElem_set_self x.isLt

theorem reg_setReg (m : Machine) (x j : Fin 16) (v : UInt8) :
    (m.setReg x v).reg j = if j = x then v else m.reg j := by
  split
  · next h => rw [h, reg_setReg_self]
  · next h => rw [reg_setReg_of_ne h]

theorem reg_combine {m : Machine} {op : Arith} {x j : Fin 16} (hx : j ≠ x)
    (hvf : j ≠ vf ∨ op.reports = false) (y : Fin 16) : (m.combine op x y).reg j = m.reg j := by
  simp only [combine]
  split
  · exact reg_setReg_of_ne hx _
  · rename_i f hf
    rcases hvf with hvf | hop
    · rw [reg_setReg_of_ne hvf, reg_setReg_of_ne hx]
    · rw [Arith.flag_of_not_reports hop] at hf
      cases hf

theorem regs_drawSprite (m : Machine) (x y : Fin 16) (rows : List UInt8) :
    ∃ flag, (m.drawSprite x y rows).regs = (m.setReg vf flag).regs := by
  unfold drawSprite
  dsimp only
  exact ⟨_, rfl⟩

theorem reg_perform {m t : Machine} {i : Instruction} (h : m.perform i = .ok t) {j : Fin 16}
    (hj : m.sets j i = false) : t.reg j = m.reg j := by
  have hf := perform_frame h
  cases i with
  | setByte x nn | addByte x nn | random x nn =>
    cases h
    exact reg_setReg_of_ne (by simpa [sets] using hj) _
  | getDelay x =>
    cases h
    exact reg_setReg_of_ne (by simpa [sets] using hj) _
  | waitKey x =>
    simp only [perform] at h
    split at h
    · cases h
      rfl
    · rename_i key hk
      cases h
      have hdown : m.keypad.pressed ≠ [] := by
        intro hnone
        rw [Keypad.highest?, hnone] at hk
        cases hk
      have hne : j ≠ x := by simpa [sets, hdown] using hj
      exact reg_setReg_of_ne hne _
  | arith op x y =>
    cases h
    simp only [sets, Bool.or_eq_false_iff, Bool.and_eq_false_iff, beq_eq_false_iff_ne] at hj
    exact reg_combine hj.1 hj.2 y
  | draw x y n =>
    simp only [perform] at h
    split at h
    · cases h
    · rename_i rows hr
      cases h
      have hne : j ≠ vf := by simpa [sets] using hj
      obtain ⟨flag, hflag⟩ := m.regs_drawSprite x y rows
      rw [reg, hflag]
      exact reg_setReg_of_ne hne flag
  | load x =>
    simp only [perform] at h
    split at h
    · cases h
    · rename_i bytes hb
      cases h
      obtain ⟨-, rfl⟩ := readBlock?_eq_some hb
      have hlt : x < j := by simpa [sets] using hj
      refine getElem_overwrite_of_outside (.inr ?_)
      rw [List.length_ofFn]
      omega
  -- the others do not write registers
  | _ => exact (congrArg (fun s : Machine => s.reg j) hf).symm

/-! ## The program counter -/

theorem pc_perform {m t : Machine} {i : Instruction} (h : m.perform i = .ok t)
    (hi : m.redirects i = false) : t.pc = m.pc := by
  rw [perform_pc h]
  cases i with
  | ret | jump nnn | call nnn | jumpOffset nnn => cases hi
  | waitKey x =>
    have hdown : m.keypad.highest? ≠ none := by
      intro hnone
      rw [Keypad.highest?, List.getLast?_eq_none_iff] at hnone
      simp [redirects, hnone] at hi
    rw [follow, if_neg hdown]
  | _ =>
    simp only [redirects] at hi
    simp only [follow, hi, Bool.false_eq_true, if_false]

/-! ## All parts -/

/-- An instruction that completes changes nothing outside of its entries. -/
theorem perform_keeps {m t : Machine} {i : Instruction} (h : m.perform i = .ok t) {p : Part}
    (hp : m.changes i p = false) : m.Kept t p := by
  have hf := perform_frame h
  cases p with
  | cell a => exact cell_perform h hp
  | register j => exact reg_perform h hp
  | pc => exact pc_perform h hp
  | index =>
    cases i with
    | setIndex nnn | addIndex x | glyph x => cases hp
    | _ => exact (congrArg index hf).symm
  | stack =>
    cases i with
    | ret | call nnn => cases hp
    | _ => exact (congrArg stack hf).symm
  | display =>
    cases i with
    | clear | draw x y n => cases hp
    | _ => exact (congrArg display hf).symm
  | drawFlag =>
    cases i with
    | clear | draw x y n => cases hp
    | _ => exact (congrArg drawFlag hf).symm
  | delayTimer =>
    cases i with
    | setDelay x => cases hp
    | _ => exact (congrArg delayTimer hf).symm
  | soundTimer =>
    cases i with
    | setSound x => cases hp
    | _ => exact (congrArg soundTimer hf).symm
  | random =>
    cases i with
    | random x nn => cases hp
    | _ => exact (congrArg Machine.random hf).symm
  | opcode => cases i <;> exact (congrArg opcode hf).symm
  | soundFlag => cases i <;> exact (congrArg soundFlag hf).symm
  | keypad => cases i <;> exact (congrArg keypad hf).symm
  | edges => cases i <;> exact (congrArg edges hf).symm

/-- The table does not look at what a fetch writes. -/
theorem changes_fetched (m : Machine) (w : UInt16) (i : Instruction) (p : Part) :
    (m.fetched w).changes i p = m.changes i p := by
  cases p with
  | pc =>
    cases i <;> rfl
  | _ => rfl

/-- **What an instruction changes.** A word that executes spells an instruction,
and every part outside of its entries in the table is kept. A step keeps what
the machine holds that has moved past the word and recorded it, and nothing but
the fetch writes the record. A machine of which every part is kept is the same. -/
theorem execute_confined (m : Machine) :
    (∀ (w : Int) t, m.execute w = .ok t →
      ∃ i : Instruction, (i.word : Int) = w % 65536 ∧
        ∀ p, m.changes i p = false → m.Kept t p) ∧
    (∀ t, m.step = .ok t →
      ∃ i w, m.Spells i ∧ w.toNat = i.word ∧ t.opcode = w ∧
        ∀ p, m.changes i p = false → (m.fetched w).Kept t p) ∧
    ∀ t, (∀ p, m.Kept t p) → t = m := by
  refine ⟨?_, ?_, fun t => eq_of_kept⟩
  · intro w t h
    unfold execute at h
    split at h
    · cases h
    · rename_i i hi
      exact ⟨i, Instruction.word_eq_emod hi, fun p hp => perform_keeps h hp⟩
  · intro t h
    obtain ⟨i, w, hs, hw, hperform⟩ := step_eq_ok_iff.mp h
    have hkeeps : ∀ p, m.changes i p = false → (m.fetched w).Kept t p := by
      intro p hp
      rw [← m.changes_fetched w i p] at hp
      exact perform_keeps hperform hp
    exact ⟨i, w, hs, hw, hkeeps .opcode rfl, hkeeps⟩

/-- A program of one FX55, with two cells left between I and the end of memory. -/
def storing : Machine :=
  { blank ⟨0, 0⟩ .clip with
    memory := overwrite (Vector.replicate 4096 0) 0x200 [0xF1, 0x55]
    regs := overwrite (Vector.replicate 16 0) 0 [7, 9, 11]
    index := 0xFFE }

/-- The word 0xF155 stores two registers, and 0x3001 is a skip that is not taken. -/
theorem execute_confined_storing :
    (∃ t, storing.execute 0xF155 = .ok t ∧ t.memory.get 0xFFD = storing.memory.get 0xFFD ∧
      t.reg 2 = storing.reg 2 ∧ t.pc = storing.pc) ∧
    (∃ t, storing.step = .ok t ∧ t.opcode = 0xF155 ∧ t.pc = storing.pc + 2 ∧
      t.memory.get 0xFFD = storing.memory.get 0xFFD) ∧
    storing.execute 0x3001 = .ok storing := by
  obtain ⟨hwords, hsteps, hall⟩ := execute_confined storing
  have hstores : (Instruction.store 1).word = 0xF155 := rfl
  have hskips : (Instruction.skipEqByte 0 1).word = 0x3001 := rfl
  refine ⟨?_, ?_, ?_⟩
  · have hok : Outcome.ofExcept (storing.execute 0xF155) = .ok := by decide +kernel
    obtain ⟨t, ht⟩ := Outcome.ofExcept_eq_ok_iff.mp hok
    obtain ⟨i, hi, hkeeps⟩ := hwords 0xF155 t ht
    obtain rfl : i = .store 1 := Instruction.word_inj (by omega)
    exact ⟨t, ht, hkeeps (.cell 0xFFD) (by decide), hkeeps (.register 2) rfl, hkeeps .pc rfl⟩
  · have hok : Outcome.ofExcept storing.step = .ok := by decide +kernel
    obtain ⟨t, ht⟩ := Outcome.ofExcept_eq_ok_iff.mp hok
    obtain ⟨i, w, hs, hw, hopcode, hkeeps⟩ := hsteps t ht
    have hstore : storing.Spells (.store 1) := by unfold Spells; decide +kernel
    obtain rfl : i = .store 1 := hs.unique hstore
    have hword : w = 0xF155 := UInt16.toNat_inj.mp hw
    rw [hword] at hopcode
    exact ⟨t, ht, hopcode, hkeeps .pc rfl, hkeeps (.cell 0xFFD) (by decide)⟩
  · have hok : Outcome.ofExcept (storing.execute 0x3001) = .ok := by decide +kernel
    obtain ⟨t, ht⟩ := Outcome.ofExcept_eq_ok_iff.mp hok
    obtain ⟨i, hi, hkeeps⟩ := hwords 0x3001 t ht
    obtain rfl : i = .skipEqByte 0 1 := Instruction.word_inj (by omega)
    have hkept : ∀ p, storing.Kept t p := by
      intro p
      apply hkeeps p
      cases p <;> rfl
    rw [ht, hall t hkept]

end Machine
end Chip8
