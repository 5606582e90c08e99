import Chip8.Proofs.CallStack
import Chip8.Proofs.Frame
import Chip8.Proofs.Step

/-!
# Where control goes

The program counter and the stack after a completed instruction. `skips` says
when a skip passes over the next instruction and `follow` where control goes.

Results:
* `perform_pc`: the program counter after an instruction is `follow`.
* `perform_stack`, `step_stack`: a return pops, a call pushes its own address,
  and nothing else touches the stack.
* `step_pc_of`, `step_pc`, `goal_le`: from a stack of fetched addresses control goes
  where unbounded integers say, and not beyond 0x10FE. What does not return does not
  need the stack.
-/
namespace Chip8
namespace Machine

/-- Whether a skip passes over the next instruction. -/
def skips (m : Machine) : Instruction → Bool
  | .skipEqByte x nn => m.reg x == nn
  | .skipNeByte x nn => m.reg x != nn
  | .skipEqReg x y => m.reg x == m.reg y
  | .skipNeReg x y => m.reg x != m.reg y
  | .skipPressed x => m.keyDown x
  | .skipReleased x => !m.keyDown x
  | _ => false

/-- Where control goes from an instruction that the program counter is past. -/
def follow (m : Machine) : Instruction → UInt16
  | .ret =>
    match m.stack.pop? with
    | none => m.pc
    | some (address, _) => address + 2
  | .jump nnn => UInt16.ofNat nnn
  | .call nnn => UInt16.ofNat nnn
  | .jumpOffset nnn => UInt16.ofNat nnn + (m.reg v0).toUInt16
  | .waitKey _ => if m.keypad.highest? = none then m.pc - 2 else m.pc
  | i => if m.skips i then m.pc + 2 else m.pc

theorem skips_fetched (m : Machine) (w : UInt16) (i : Instruction) :
    (m.fetched w).skips i = m.skips i := by
  cases i <;> rfl

theorem pc_skipIf (m : Machine) (c : Bool) : (m.skipIf c).pc = if c then m.pc + 2 else m.pc := by
  cases c <;> rfl

theorem perform_pc {m m' : Machine} {i : Instruction} (h : m.perform i = .ok m') :
    m'.pc = m.follow i := by
  have hf := perform_frame h
  cases i with
  | ret =>
    simp only [perform] at h
    split at h
    · cases h
    · rename_i hp
      cases h
      simp only [follow, hp]
  | call nnn =>
    simp only [perform] at h
    split at h <;> cases h
    rfl
  | waitKey x =>
    simp only [perform] at h
    split at h
    · rename_i hk
      cases h
      rw [follow, if_pos hk]
    · rename_i key hk
      cases h
      rw [follow, hk]
      rfl
  | jump nnn | jumpOffset nnn => cases h; rfl
  | skipEqByte x b | skipNeByte x b | skipEqReg x b | skipNeReg x b =>
    cases h; exact pc_skipIf m _
  | skipPressed x | skipReleased x => cases h; exact pc_skipIf m _
  -- the others do not write the program counter
  | _ => exact (congrArg pc hf).symm

theorem perform_stack {m m' : Machine} {i : Instruction} (h : m.perform i = .ok m') :
    match i with
    | .ret => ∃ address, m.stack.pop? = some (address, m'.stack) ∧ m'.pc = address + 2
    | .call _ => m.stack.push? (m.pc - 2) = some m'.stack
    | _ => m'.stack = m.stack := by
  have hf := perform_frame h
  cases i with
  | ret =>
    simp only [perform] at h
    split at h
    · cases h
    · rename_i address stack hp
      cases h
      exact ⟨address, hp, rfl⟩
  | call nnn =>
    simp only [perform] at h
    split at h
    · cases h
    · rename_i stack hp
      cases h
      exact hp
  | _ => exact (congrArg stack hf).symm

/-- What a completed step does to the stack. -/
theorem step_stack {m m' : Machine} {i : Instruction} (hs : m.Spells i) (h : m.step = .ok m') :
    match i with
    | .ret => ∃ address, m.stack.pop? = some (address, m'.stack) ∧ m'.pc = address + 2
    | .call _ => m.stack.push? m.pc = some m'.stack
    | _ => m'.stack = m.stack := by
  obtain ⟨w, -, -, hstep⟩ := step_eq_of_spells hs
  rw [hstep] at h
  have hp := perform_stack h
  cases i with
  | call nnn => simpa only [fetched, UInt16.add_sub_cancel] using hp
  | _ => exact hp

/-! ## In integers -/

/-- Where control goes from the instruction at the program counter, in unbounded
integers. -/
def goal (m : Machine) : Instruction → Int
  | .ret =>
    match m.stack.pop? with
    | none => m.pc.toNat + 2
    | some (address, _) => address.toNat + 2
  | .jump nnn => (nnn : Nat)
  | .call nnn => (nnn : Nat)
  | .jumpOffset nnn => (nnn : Nat) + (m.reg v0).toNat
  | .waitKey _ => if m.keypad.highest? = none then m.pc.toNat + 2 - 2 else m.pc.toNat + 2
  | i => if m.skips i then m.pc.toNat + 2 + 2 else m.pc.toNat + 2

theorem toNat_ofNat_address (nnn : Fin 4096) : (UInt16.ofNat nnn).toNat = nnn :=
  UInt16.toNat_ofNat_of_lt' (Nat.lt_trans nnn.isLt (by decide))

theorem toNat_add_two {a : UInt16} (h : a.toNat ≤ 0x1000) : (a + 2).toNat = a.toNat + 2 := by
  simp only [UInt16.toNat_add, UInt16.reduceToNat]
  omega

/-- From a fetched address nothing wraps; a return also needs a stack of such. -/
theorem follow_eq_goal (m : Machine) (w : UInt16) (i : Instruction) (hpc : m.pc.toNat ≤ 0xFFE)
    (hst : i = .ret → ∀ a ∈ m.stack.entries, a.toNat ≤ 0xFFE) :
    (((m.fetched w).follow i).toNat : Int) = m.goal i := by
  have h2 : (m.pc + 2).toNat = m.pc.toNat + 2 := toNat_add_two (by omega)
  have h4 : (m.pc + 2 + 2).toNat = m.pc.toNat + 2 + 2 := by rw [toNat_add_two (by omega), h2]
  cases i with
  | ret =>
    simp only [follow, goal, fetched]
    split
    · rw [h2]; rfl
    · rename_i address stack hp
      have ha := hst rfl address (by rw [CallStack.entries_pop hp]; simp)
      rw [toNat_add_two (by omega)]; rfl
  | jump nnn | call nnn => rw [follow, toNat_ofNat_address]; rfl
  | jumpOffset nnn =>
    have hv := (m.reg v0).toNat_lt
    simp only [follow, goal, reg_fetched]
    rw [UInt16.toNat_add, toNat_ofNat_address, UInt8.toNat_toUInt16, Nat.mod_eq_of_lt (by omega)]
    rfl
  | waitKey x =>
    simp only [follow, goal, fetched, UInt16.add_sub_cancel]
    split
    · omega
    · rw [h2]; rfl
  | _ =>
    simp only [follow, goal, skips_fetched]
    split
    · exact congrArg Int.ofNat h4
    · exact congrArg Int.ofNat h2

theorem step_pc_of {m m' : Machine} {i : Instruction} (hs : m.Spells i) (h : m.step = .ok m')
    (hst : i = .ret → ∀ a ∈ m.stack.entries, a.toNat ≤ 0xFFE) :
    (m'.pc.toNat : Int) = m.goal i := by
  obtain ⟨w, -, -, hstep⟩ := step_eq_of_spells hs
  rw [hstep] at h
  rw [perform_pc h]
  exact m.follow_eq_goal w i hs.pc_le hst

theorem step_pc {m m' : Machine} {i : Instruction} (hs : m.Spells i) (h : m.step = .ok m')
    (hst : ∀ a ∈ m.stack.entries, a.toNat ≤ 0xFFE) : (m'.pc.toNat : Int) = m.goal i :=
  step_pc_of hs h fun _ => hst

/-- The farthest jump is one to 0xFFF plus a byte. -/
theorem goal_le (m : Machine) (i : Instruction) (hpc : m.pc.toNat ≤ 0xFFE)
    (hst : ∀ a ∈ m.stack.entries, a.toNat ≤ 0xFFE) : m.goal i ≤ 0x10FE := by
  cases i with
  | ret =>
    simp only [goal]
    split
    · omega
    · rename_i address stack hp
      have ha := hst address (by rw [CallStack.entries_pop hp]; simp)
      omega
  | jump nnn | call nnn => simp only [goal]; omega
  | jumpOffset nnn =>
    have hv := (m.reg v0).toNat_lt
    simp only [goal]
    omega
  | _ =>
    simp only [goal]
    split <;> omega

end Machine
end Chip8
