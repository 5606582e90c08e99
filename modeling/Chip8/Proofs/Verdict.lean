import Chip8.Proofs.Step

/-!
# How a step ends

Which of the five faults a step reports, or none, is settled before anything is
written: by the word at the program counter, the number of stack slots in use
and I. `Machine.Causes` says of a machine what brings each fault about, in
the bytes at the program counter and in unbounded sums.

Results:
* `ofExcept_perform`: how an instruction ends.
* `outcome_step`: how a step ends, as a function of what it looks at.
* `outcome_step_iff_causes`: a step reports a fault exactly on its cause, and
  completes exactly when there is no cause.
-/
namespace Chip8

/-- The outcome that an optional fault stands for. -/
def Outcome.ofFault? : Option Fault → Outcome
  | none => .ok
  | some f => .fault f

theorem Outcome.ofFault?_eq_fault_iff (o : Option Fault) (f : Fault) :
    ofFault? o = .fault f ↔ o = some f := by
  cases o <;> simp [ofFault?]

/-- The fault of an instruction on a machine with `depth` stack slots in use and
`index` in I. The ends of blocks are sums in the naturals. -/
def Instruction.fault? (depth index : Nat) : Instruction → Option Fault
  | .ret => if depth = 0 then some .stackUnderflow else none
  | .call _ => if depth = 16 then some .stackOverflow else none
  | .draw _ _ n => if 4096 < index + n then some .memoryOutOfBounds else none
  | .decimal _ => if 4096 < index + 3 then some .memoryOutOfBounds else none
  | .store x => if 4096 < index + (x + 1) then some .memoryOutOfBounds else none
  | .load x => if 4096 < index + (x + 1) then some .memoryOutOfBounds else none
  | _ => none

namespace Machine

/-! ## Instructions -/

/-- What rests on one partial operation faults exactly when that operation has
no result. -/
theorem ofExcept_of_partial {α : Type} {o : Option α} {c : Prop} [Decidable c] (h : o = none ↔ c)
    {r : Except Fault Machine} {f : Fault} (hn : o = none → Outcome.ofExcept r = .fault f)
    (hs : ∀ a, o = some a → Outcome.ofExcept r = .ok) :
    Outcome.ofExcept r = .ofFault? (if c then some f else none) := by
  cases ho : o with
  | none => rw [hn ho, if_pos (h.mp ho)]; rfl
  | some a =>
    have hc : ¬ c := fun hc => by rw [h.mpr hc] at ho; cases ho
    rw [hs a ho, if_neg hc]; rfl

theorem ofExcept_perform (m : Machine) (i : Instruction) :
    Outcome.ofExcept (m.perform i) = .ofFault? (i.fault? m.stack.depth m.index.toNat) := by
  cases i with
  | ret =>
    exact ofExcept_of_partial m.stack.pop?_eq_none_iff
      (fun h => by simp only [perform, h]; rfl) fun p h => by simp only [perform, h]; rfl
  | call nnn =>
    exact ofExcept_of_partial (m.stack.push?_eq_none_iff (m.pc - 2))
      (fun h => by simp only [perform, h]; rfl) fun p h => by simp only [perform, h]; rfl
  | draw x y n =>
    exact ofExcept_of_partial (readBlock?_eq_none_iff m.memory m.index.toNat n)
      (fun h => by simp only [perform, h]; rfl) fun p h => by simp only [perform, h]; rfl
  | decimal x =>
    exact ofExcept_of_partial
      (writeBlock?_eq_none_iff m.memory m.index.toNat (decimalDigits (m.reg x)))
      (fun h => by simp only [perform, h]; rfl) fun p h => by simp only [perform, h]; rfl
  | store x =>
    have hl : (m.regs.toList.take (x + 1)).length = x + 1 := by
      rw [List.length_take, Vector.length_toList]; omega
    have hw := writeBlock?_eq_none_iff m.memory m.index.toNat (m.regs.toList.take (x + 1))
    rw [hl] at hw
    exact ofExcept_of_partial hw
      (fun h => by simp only [perform, h]; rfl) fun p h => by simp only [perform, h]; rfl
  | load x =>
    exact ofExcept_of_partial (readBlock?_eq_none_iff m.memory m.index.toNat (x + 1))
      (fun h => by simp only [perform, h]; rfl) fun p h => by simp only [perform, h]; rfl
  | waitKey x =>
    simp only [perform]
    split <;> rfl
  | _ => rfl

theorem perform_of_fault {m : Machine} {i : Instruction} {f : Fault}
    (h : i.fault? m.stack.depth m.index.toNat = some f) : m.perform i = .error f := by
  rw [← Outcome.ofExcept_eq_fault_iff, ofExcept_perform, h]
  rfl

/-! ## Steps -/

/-- How a step ends, from the word at the program counter, the number of stack
slots in use and I. -/
def verdict (word : Option UInt16) (depth index : Nat) : Outcome :=
  match word with
  | none => .fault .pcOutOfRange
  | some w =>
    match Instruction.ofInt? w.toNat with
    | none => .fault .unknownInstruction
    | some i => .ofFault? (i.fault? depth index)

theorem outcome_step (m : Machine) :
    Outcome.ofExcept m.step = verdict m.word? m.stack.depth m.index.toNat := by
  rw [step_eq]
  unfold verdict
  cases m.word? with
  | none => rfl
  | some w =>
    cases h : Instruction.ofInt? w.toNat with
    | none => simp only [h]; rfl
    | some i => simp only [h]; exact ofExcept_perform (m.fetched w) i

/-- What brings a fault about. -/
def Causes (m : Machine) : Fault → Prop
  | .pcOutOfRange => 0xFFE < m.pc.toNat
  | .unknownInstruction => m.pc.toNat ≤ 0xFFE ∧ ∀ i, ¬ m.Spells i
  | .stackOverflow => (∃ nnn, m.Spells (.call nnn)) ∧ m.stack.depth = 16
  | .stackUnderflow => m.Spells .ret ∧ m.stack.depth = 0
  | .memoryOutOfBounds =>
    (∃ x y n, m.Spells (.draw x y n) ∧ 4096 < m.index.toNat + n) ∨
    (∃ x, m.Spells (.decimal x) ∧ 4096 < m.index.toNat + 3) ∨
    (∃ x, (m.Spells (.store x) ∨ m.Spells (.load x)) ∧ 4096 < m.index.toNat + x + 1)

theorem verdict_eq_fault_iff (m : Machine) (f : Fault) :
    verdict m.word? m.stack.depth m.index.toNat = .fault f ↔ m.Causes f := by
  have hs := m.spells_iff
  have hpc := m.word?_eq_none_iff
  unfold pending? at hs
  unfold verdict
  cases hw : m.word? with
  | none =>
    simp only [hw, true_iff, Option.bind_none, reduceCtorEq, iff_false] at hs hpc
    cases f <;> simp [Causes, hs, hpc]
  | some w =>
    simp only [hw, Option.bind_some, reduceCtorEq, false_iff] at hs hpc
    cases hi : Instruction.ofInt? w.toNat with
    | none =>
      simp only [hi, reduceCtorEq, iff_false] at hs
      cases f <;> simp [hi, Causes, hs, hpc, Nat.not_lt.mp hpc]
    | some i =>
      -- exactly `i` is spelled, so a cause is a condition on `i` alone
      simp only [hi, Option.some.injEq] at hs
      simp only [hi, Outcome.ofFault?_eq_fault_iff]
      cases f with
      | memoryOutOfBounds =>
        simp only [Causes, hs]
        cases i with
        | draw x y n =>
          simp only [Instruction.fault?, Option.ite_none_right_eq_some, and_true, reduceCtorEq,
            Instruction.draw.injEq, false_and, or_self, exists_false, or_false]
          exact ⟨fun h => ⟨x, y, n, ⟨rfl, rfl, rfl⟩, h⟩, fun ⟨_, _, _, ⟨_, _, e⟩, h⟩ => e ▸ h⟩
        | decimal x => simp [Instruction.fault?]; omega
        | _ => simp [Instruction.fault?, Nat.add_assoc]
      | _ => cases i <;> simp [Causes, hs, hpc, Instruction.fault?]

/-- **Faults.** How a step ends is a function of the word at the program
counter, the stack depth and I. It reports each fault exactly on its cause, and
it completes in every other case. -/
theorem outcome_step_iff_causes (m : Machine) :
    Outcome.ofExcept m.step = verdict m.word? m.stack.depth m.index.toNat ∧
      (∀ f, Outcome.ofExcept m.step = .fault f ↔ m.Causes f) ∧
      (Outcome.ofExcept m.step = .ok ↔ ∀ f, ¬ m.Causes f) := by
  rw [outcome_step]
  refine ⟨rfl, m.verdict_eq_fault_iff, ?_⟩
  simp only [← verdict_eq_fault_iff]
  cases verdict m.word? m.stack.depth m.index.toNat with
  | ok => simp
  | fault f => simp

end Machine
end Chip8
