import Chip8.Proofs.CallStack
import Chip8.Proofs.Draft

/-!
# What lies outside of the storage is never seen

A machine that runs every instruction in full agrees with the one that looks
before it reads, whatever its bus yields outside of the storage: an attempt that
counts has used nothing from there, and one that does not is dropped.

Results:
* `mask_eq`, `overwrite_transfer`, `ofFn_transfer`: what the masks pick lies in
  memory if the block does.
* `attempt_commit`: an instruction run in full leaves what it leaves otherwise.
* `executeOn_eq`, `stepOn_eq`: the same of words and steps.
* `outcome_stepOn`: so a step run in full ends as the step does.
* `outside_unseen`: all of it, for any two buses.
-/
namespace Chip8

/-! ## Sprites -/

theorem Edges.offset?_of_nonneg (e : Edges) {size corner cell : Nat}
    (h : 0 ≤ e.shift size corner cell) :
    e.offset? size corner cell = some (e.shift size corner cell).toNat := by
  cases e with
  | clip =>
    have hle : corner ≤ cell := by rw [shift] at h; omega
    rw [offset?, if_pos hle, Option.some.injEq, shift]
    omega
  | wrap => rfl

theorem Edges.offset?_of_neg (e : Edges) {size corner cell : Nat} (hs : 0 < size)
    (h : e.shift size corner cell < 0) : e.offset? size corner cell = none := by
  cases e with
  | clip =>
    have hlt : ¬ corner ≤ cell := by rw [shift] at h; omega
    rw [offset?, if_neg hlt]
  | wrap =>
    have hnonneg : (0 : Int) ≤ ((cell : Int) - corner) % size := Int.emod_nonneg _ (by omega)
    rw [shift] at h
    omega

/-- Bits counted from the highest. -/
theorem testBit_eq_getMsbD (b : UInt8) {c : Nat} (hc : c < 8) :
    b.toNat.testBit (7 - c) = b.toBitVec.getMsbD c := by
  rw [BitVec.getMsbD_eq_getLsbD, decide_eq_true hc, Bool.true_and]
  rfl

theorem clamp_of_lt {top : Nat} {k : Int} (h : k < top + 1) : clamp top k = k.toNat := by
  unfold clamp
  omega

/-! ## Stack pointers -/

theorem CallStack.toNat_pointer (s : CallStack) : (UInt8.ofNat s.depth).toNat = s.depth :=
  UInt8.toNat_ofNat_of_lt' (Nat.lt_of_le_of_lt s.depth_le (by decide))

theorem setIfInBounds_of_lt {α : Type} {n k : Nat} {v : Vector α n} (h : k < n) (a : α) :
    v.setIfInBounds k a = v.set k a := by
  apply Vector.ext
  intro j hj
  rw [Vector.getElem_setIfInBounds, Vector.getElem_set]

namespace Machine

theorem toNat_pointer (m : Machine) : m.draft.pointer.toNat = m.stack.depth :=
  m.stack.toNat_pointer

/-! ## Masks -/

/-- If the rows of a sprite lie in memory, the mask covers its cells. -/
theorem mask_eq {m : Machine} {x y n : Fin 16} {rows : List UInt8}
    (h : readBlock? m.memory m.index.toNat n = some rows) (bus : Bus) :
    m.mask bus x y n = Sprite.cells ⟨(m.reg x).toNat, (m.reg y).toNat, rows⟩ m.edges := by
  obtain ⟨hb, rfl⟩ := readBlock?_eq_some h
  funext cx cy
  simp only [mask, Sprite.cells]
  by_cases hrow : 0 ≤ m.edges.shift 32 (m.reg y).toNat cy
  · rw [Edges.offset?_of_nonneg _ hrow]
    by_cases hcol : 0 ≤ m.edges.shift 64 (m.reg x).toNat cx
    · rw [Edges.offset?_of_nonneg _ hcol]
      generalize m.edges.shift 64 (m.reg x).toNat cx = col at *
      generalize m.edges.shift 32 (m.reg y).toNat cy = row at *
      simp only [List.length_ofFn, Sprite.bit, List.getElem?_ofFn]
      by_cases hlt : row.toNat < (n : Nat)
      · have hread : m.index.toNat + row.toNat < 4096 := by omega
        rw [clamp_of_lt (by omega), peek_of_lt hread, dif_pos hlt, decide_eq_true hlt,
          Bool.true_and]
        by_cases h8 : col < 8
        · rw [clamp_of_lt (by omega), testBit_eq_getMsbD _ (by omega),
            decide_eq_true (by omega), Bool.and_true]
        · -- past the eighth column the mask is closed, and the picture has no ones
          have hge : 8 ≤ col.toNat := by omega
          rw [decide_eq_false (by omega), Bool.and_false]
          exact (BitVec.getMsbD_of_ge _ _ hge).symm
      · rw [decide_eq_false (by omega), Bool.and_false, decide_eq_false hlt, Bool.false_and]
    · rw [Edges.offset?_of_neg _ (by decide) (by omega), decide_eq_false (by omega)]
      simp
  · rw [Edges.offset?_of_neg _ (by decide) (by omega), decide_eq_false (by omega), Bool.and_false]

theorem transfer_eq (m : Machine) (bus : Bus) (j : Fin 16) (h : m.index.toNat + j < 4096) :
    m.transfer bus j = m.memory[m.index.toNat + j.val] := peek_of_lt h

theorem length_take_regs (m : Machine) (x : Fin 16) :
    (m.regs.toList.take (x + 1)).length = x + 1 := by
  rw [List.length_take, Vector.length_toList]
  omega

/-- Writing all lanes back, those past VX as they were read, writes those up to VX. -/
theorem overwrite_transfer (m : Machine) (bus : Bus) (x : Fin 16) :
    overwrite m.memory m.index.toNat
        (List.ofFn fun j => if j ≤ x then m.reg j else m.transfer bus j) =
      overwrite m.memory m.index.toNat (m.regs.toList.take (x + 1)) := by
  have hlen := m.length_take_regs x
  apply Vector.ext
  intro k hk
  by_cases hin : m.index.toNat ≤ k ∧ k < m.index.toNat + 16
  · rw [getElem_overwrite_of_lt hin.1 (by rw [List.length_ofFn]; omega), List.getElem_ofFn]
    by_cases hle : k - m.index.toNat ≤ x
    · rw [if_pos (Fin.le_def.mpr hle), getElem_overwrite_of_lt hin.1 (by omega),
        List.getElem_take, Vector.getElem_toList]
      rfl
    · -- the lane was read from the cell that it is written back to
      have hback : m.index.toNat + (k - m.index.toNat) = k := by omega
      rw [if_neg (fun h => hle (Fin.le_def.mp h)), transfer_eq _ _ _ (by simp only; omega),
        getElem_overwrite_of_outside (by omega)]
      simp only [hback]
  · rw [getElem_overwrite_of_outside (by rw [List.length_ofFn]; omega),
      getElem_overwrite_of_outside (by omega)]

/-- Reading all lanes and keeping those up to VX reads those. -/
theorem ofFn_transfer {m : Machine} {x : Fin 16} {bytes : List UInt8}
    (h : readBlock? m.memory m.index.toNat (x + 1) = some bytes) (bus : Bus) :
    (Vector.ofFn fun j => if j ≤ x then m.transfer bus j else m.reg j) =
      overwrite m.regs 0 bytes := by
  obtain ⟨hb, rfl⟩ := readBlock?_eq_some h
  apply Vector.ext
  intro k hk
  rw [Vector.getElem_ofFn]
  by_cases hle : k ≤ x
  · rw [if_pos (Fin.le_def.mpr hle), transfer_eq _ _ _ (by simp only; omega),
      getElem_overwrite_of_lt (Nat.zero_le k) (by rw [List.length_ofFn]; omega),
      List.getElem_ofFn]
    rfl
  · rw [if_neg (fun h => hle (Fin.le_def.mp h)),
      getElem_overwrite_of_outside (by rw [List.length_ofFn]; omega)]
    rfl

/-! ## Instructions -/

/-- What is dropped exactly when a partial operation has no result. -/
theorem commit_faultIf {α : Type} {o : Option α} {c : Prop} [Decidable c] (h : o = none ↔ c)
    {m : Machine} {d : Draft} {r : Except Fault Machine} {f : Fault}
    (hn : o = none → r = .error f) (hs : ∀ a, o = some a → ∃ t, r = .ok t ∧ t.draft = d) :
    Attempt.commit m.draft ⟨d, .faultIf c f⟩ = m.settle r := by
  cases ho : o with
  | none =>
    rw [hn ho, Outcome.faultIf, if_pos (h.mp ho)]
    rfl
  | some a =>
    have hc : ¬ c := fun hc => by rw [h.mpr hc] at ho; cases ho
    obtain ⟨t, hr, rfl⟩ := hs a ho
    rw [hr, Outcome.faultIf, if_neg hc]
    rfl

theorem commit_settle (m t : Machine) (r : Except Fault Machine) :
    (t.settle r).commit m.draft = m.settle r := by
  cases r <;> rfl

theorem attempt_ret (m : Machine) (bus : Bus) :
    (m.attempt bus .ret).commit m.draft = m.settle (m.perform .ret) := by
  have hempty : m.stack.pop? = none ↔ m.draft.pointer = 0 := by
    rw [CallStack.pop?_eq_none_iff, ← m.toNat_pointer, ← UInt8.toNat_inj]
    rfl
  refine commit_faultIf hempty (fun h => by simp only [perform, h]) ?_
  rintro ⟨address, stack⟩ h
  refine ⟨{ m with stack, pc := address + 2 }, by simp only [perform, h], ?_⟩
  obtain ⟨hd, hdepth, rfl, hslots⟩ := CallStack.pop?_eq_some h
  -- with a slot in use, the step back stays inside of the stack
  have hpointer : m.draft.pointer - 1 = UInt8.ofNat stack.depth := by
    have hsucc : m.draft.pointer = UInt8.ofNat stack.depth + 1 := by
      rw [draft, hdepth, UInt8.ofNat_add]
      rfl
    rw [hsucc, UInt8.add_sub_cancel]
  have htop : (m.draft.pointer - 1).toNat = m.stack.depth - 1 := by
    rw [hpointer, stack.toNat_pointer, hdepth, Nat.add_sub_cancel]
  have hread : peek m.draft.slots bus.slot (m.draft.pointer - 1).toNat =
      m.stack.slots[m.stack.depth - 1] := by
    rw [htop]
    exact peek_of_lt hd
  have hwrite : m.draft.slots.setIfInBounds (m.draft.pointer - 1).toNat 0 = stack.slots := by
    rw [htop, hslots]
    exact setIfInBounds_of_lt hd 0
  rw [hread, hwrite, hpointer]
  rfl

theorem attempt_call (m : Machine) (bus : Bus) (target : Fin 4096) :
    (m.attempt bus (.call target)).commit m.draft = m.settle (m.perform (.call target)) := by
  have hfull : m.stack.push? (m.pc - 2) = none ↔ 16 ≤ m.draft.pointer := by
    have hle := m.stack.depth_le
    rw [CallStack.push?_eq_none_iff, UInt8.le_iff_toNat_le, m.toNat_pointer]
    exact ⟨fun h => Nat.le_of_eq h.symm, Nat.le_antisymm hle⟩
  refine commit_faultIf hfull (fun h => by simp only [perform, h]) ?_
  intro stack h
  refine ⟨{ m with stack, pc := UInt16.ofNat target }, by simp only [perform, h], ?_⟩
  obtain ⟨hd, hdepth, hslots⟩ := CallStack.push?_eq_some h
  have hwrite (address : UInt16) :
      m.draft.slots.setIfInBounds m.draft.pointer.toNat address =
        m.stack.slots.set m.stack.depth address := by
    rw [m.toNat_pointer]
    exact setIfInBounds_of_lt hd address
  have hpointer : m.draft.pointer + 1 = UInt8.ofNat stack.depth := by
    rw [hdepth, UInt8.ofNat_add]
    rfl
  simp only [hwrite, hpointer]
  rw [draft]
  simp only [hslots]
  rfl

theorem attempt_draw (m : Machine) (bus : Bus) (x y n : Fin 16) :
    (m.attempt bus (.draw x y n)).commit m.draft = m.settle (m.perform (.draw x y n)) := by
  refine commit_faultIf (readBlock?_eq_none_iff m.memory m.index.toNat n)
    (fun h => by simp only [perform, h]) ?_
  intro rows h
  refine ⟨m.drawSprite x y rows, by simp only [perform, h], ?_⟩
  rw [mask_eq h bus]
  rfl

theorem attempt_decimal (m : Machine) (bus : Bus) (x : Fin 16) :
    (m.attempt bus (.decimal x)).commit m.draft = m.settle (m.perform (.decimal x)) := by
  refine commit_faultIf
    (writeBlock?_eq_none_iff m.memory m.index.toNat (decimalDigits (m.reg x)))
    (fun h => by simp only [perform, h]) ?_
  intro memory h
  refine ⟨{ m with memory }, by simp only [perform, h], ?_⟩
  rw [writeBlock?_eq_some h]
  rfl

theorem attempt_store (m : Machine) (bus : Bus) (x : Fin 16) :
    (m.attempt bus (.store x)).commit m.draft = m.settle (m.perform (.store x)) := by
  have hblock := writeBlock?_eq_none_iff m.memory m.index.toNat (m.regs.toList.take (x + 1))
  rw [m.length_take_regs] at hblock
  refine commit_faultIf hblock (fun h => by simp only [perform, h]) ?_
  intro memory h
  refine ⟨{ m with memory }, by simp only [perform, h], ?_⟩
  rw [writeBlock?_eq_some h, ← m.overwrite_transfer bus x]
  rfl

theorem attempt_load (m : Machine) (bus : Bus) (x : Fin 16) :
    (m.attempt bus (.load x)).commit m.draft = m.settle (m.perform (.load x)) := by
  refine commit_faultIf (readBlock?_eq_none_iff m.memory m.index.toNat (x + 1))
    (fun h => by simp only [perform, h]) ?_
  intro bytes h
  refine ⟨{ m with regs := overwrite m.regs 0 bytes }, by simp only [perform, h], ?_⟩
  rw [ofFn_transfer h bus]
  rfl

/-- An instruction run in full leaves what it leaves otherwise. -/
theorem attempt_commit (m : Machine) (bus : Bus) (i : Instruction) :
    (m.attempt bus i).commit m.draft = m.settle (m.perform i) := by
  cases i with
  | ret => exact m.attempt_ret bus
  | call target => exact m.attempt_call bus target
  | draw x y n => exact m.attempt_draw bus x y n
  | decimal x => exact m.attempt_decimal bus x
  | store x => exact m.attempt_store bus x
  | load x => exact m.attempt_load bus x
  | _ => simp only [attempt, commit_settle]

/-! ## Words and steps -/

theorem executeOn_eq (m : Machine) (bus : Bus) (w : Int) :
    m.executeOn bus w = m.settle (m.execute w) := by
  unfold executeOn attemptWord execute
  cases Instruction.ofInt? w with
  | some i => exact m.attempt_commit bus i
  | none => cases (Fields.ofInt w).stray? <;> rfl

/-- If there is a word at the program counter, it is fetched. -/
theorem fetchOn_eq {m : Machine} {w : UInt16} (h : m.word? = some w) (bus : Bus) :
    m.fetchOn bus = w := by
  unfold word? Memory.word? at h
  split at h
  · rename_i hpc
    have hnext : (m.pc + 1).toNat = m.pc.toNat + 1 := by
      rw [UInt16.toNat_add]
      simp only [UInt16.toNat_one]
      omega
    rw [fetchOn, hnext, peek_of_lt hpc, peek_of_lt (by omega)]
    exact Option.some.inj h
  · cases h

theorem stepOn_eq (m : Machine) (bus : Bus) : m.stepOn bus = m.settle m.step := by
  rw [stepOn, executeOn_eq]
  cases hw : m.word? with
  | none =>
    have hpc : 0xFFE < m.pc.toNat := m.word?_eq_none_iff.mp hw
    rw [step_eq, hw, if_pos hpc]
    rfl
  | some w =>
    have hpc : ¬ 0xFFE < m.pc.toNat := fun h => by
      rw [m.word?_eq_none_iff.mpr h] at hw
      cases hw
    have hstep : m.step = (m.fetched w).execute w.toNat := by
      rw [step_eq, hw]
      rfl
    rw [if_neg hpc, fetchOn_eq hw bus, hstep]
    exact commit_settle m (m.fetched w) _

theorem outcome_stepOn (m : Machine) (bus : Bus) :
    (m.stepOn bus).outcome = Outcome.ofExcept m.step := by
  rw [stepOn_eq]
  cases m.step <;> rfl

/-- **Reads outside.** Executing a word and stepping, run in full, leave the same
state and report the same outcome on any two buses, so also on one that yields
the last item of the storage and on one that yields zero. What they leave is what
the machine that looks before it reads leaves, or the old state after a fault. -/
theorem outside_unseen (m : Machine) (bus bus' : Bus) (w : Int) :
    (m.executeOn bus w = m.executeOn bus' w ∧ m.stepOn bus = m.stepOn bus') ∧
      (m.executeOn m.lastItems w = m.executeOn .zero w ∧ m.stepOn m.lastItems = m.stepOn .zero) ∧
      m.executeOn bus w = m.settle (m.execute w) ∧ m.stepOn bus = m.settle m.step := by
  have hexecute (b b' : Bus) : m.executeOn b w = m.executeOn b' w := by
    rw [executeOn_eq, executeOn_eq]
  have hstep (b b' : Bus) : m.stepOn b = m.stepOn b' := by
    rw [stepOn_eq, stepOn_eq]
  exact ⟨⟨hexecute bus bus', hstep bus bus'⟩, ⟨hexecute m.lastItems .zero, hstep m.lastItems .zero⟩,
    m.executeOn_eq bus w, m.stepOn_eq bus⟩

end Machine
end Chip8
