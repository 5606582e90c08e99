import Chip8.Proofs.FrameTable

/-!
# Register arithmetic in integers

The operations of the 8XYN family compute in bytes. `Arith.value` and `Arith.report?`
say in integers what they put into VX and into VF. The numbers are those in VX and
VY before the operation, and the flag is written last: that settles what a register
holds when X, Y and F are not three different registers (`Machine.combined`).

Results:
* `Arith.toNat_result`, `Arith.toNat_flag`: the bytes are these integers.
* `reg_combine_eq`: every register after an operation; `reg_combine_result` and
  `reg_combine_flag` are its two cases.
* `add_sub_restores`: a subtraction takes an addition back, and its flag is the
  complement of the carry.
* `registers_exact`: all of it, with 7XNN.
-/
namespace Chip8

namespace Arith

/-- What an operation puts into VX, from the numbers in VX and in VY. -/
def value (a b : Nat) : Arith → Int
  | .copy => b
  | .or => (a ||| b : Nat)
  | .and => (a &&& b : Nat)
  | .xor => (a ^^^ b : Nat)
  | .add => ((a : Int) + b) % 256
  | .sub => ((a : Int) - b) % 256
  | .shiftRight => (a : Int) / 2
  | .subFrom => ((b : Int) - a) % 256
  | .shiftLeft => 2 * (a : Int) % 256

/-- What it puts into VF, if it reports something. -/
def report? (a b : Nat) : Arith → Option Nat
  | .copy | .or | .and | .xor => none
  | .add => some (if 255 < a + b then 1 else 0)
  | .sub => some (if b ≤ a then 1 else 0)
  | .shiftRight => some (a % 2)
  | .subFrom => some (if a ≤ b then 1 else 0)
  | .shiftLeft => some (if 128 ≤ a then 1 else 0)

theorem toNat_flagOf (p : Prop) [Decidable p] : (flagOf p).toNat = if p then 1 else 0 := by
  by_cases h : p <;> simp [flagOf, h]

theorem toNat_result (a b : UInt8) (op : Arith) :
    ((op.result a b).toNat : Int) = op.value a.toNat b.toNat := by
  have ha := a.toNat_lt
  have hb := b.toNat_lt
  cases op with
  | copy => rfl
  | or => rw [result, UInt8.toNat_or, value]
  | and => rw [result, UInt8.toNat_and, value]
  | xor => rw [result, UInt8.toNat_xor, value]
  | add =>
    rw [result, UInt8.toNat_add, value]
    omega
  | sub =>
    rw [result, UInt8.toNat_sub, value]
    omega
  | shiftRight =>
    have h1 : (1 : UInt8).toNat % 8 = 1 := by decide
    rw [result, UInt8.toNat_shiftRight, h1, Nat.shiftRight_eq_div_pow, value]
    omega
  | subFrom =>
    rw [result, UInt8.toNat_sub, value]
    omega
  | shiftLeft =>
    have h1 : (1 : UInt8).toNat % 8 = 1 := by decide
    rw [result, UInt8.toNat_shiftLeft, h1, Nat.shiftLeft_eq, value]
    omega

theorem toNat_flag (a b : UInt8) (op : Arith) :
    (op.flag a b).map UInt8.toNat = op.report? a.toNat b.toNat := by
  have ha := a.toNat_lt
  cases op with
  | copy | or | and | xor => rfl
  | add => exact congrArg some (toNat_flagOf _)
  | sub => exact congrArg some (toNat_flagOf _)
  | subFrom => exact congrArg some (toNat_flagOf _)
  | shiftRight =>
    refine congrArg some ?_
    rw [UInt8.toNat_and]
    exact Nat.and_one_is_mod _
  | shiftLeft =>
    have h7 : (7 : UInt8).toNat % 8 = 7 := by decide
    refine congrArg some ?_
    rw [UInt8.toNat_shiftRight, h7, Nat.shiftRight_eq_div_pow]
    split <;> omega

end Arith

namespace Machine

/-- What register J holds after VX and VY were combined. The flag replaces the result
when X is F. -/
def combined (m : Machine) (op : Arith) (x y j : Fin 16) : Int :=
  let a := (m.reg x).toNat
  let b := (m.reg y).toNat
  match op.report? a b with
  | some flag => if j = vf then flag else if j = x then op.value a b else (m.reg j).toNat
  | none => if j = x then op.value a b else (m.reg j).toNat

theorem reg_combine_eq (m : Machine) (op : Arith) (x y j : Fin 16) :
    (((m.combine op x y).reg j).toNat : Int) = m.combined op x y j := by
  have hvalue := Arith.toNat_result (m.reg x) (m.reg y) op
  have hflag := Arith.toNat_flag (m.reg x) (m.reg y) op
  simp only [combine, combined, ← hvalue, ← hflag]
  cases op.flag (m.reg x) (m.reg y) with
  | none =>
    simp only [Option.map_none, reg_setReg]
    split <;> rfl
  | some f =>
    simp only [Option.map_some, reg_setReg]
    split
    · rfl
    · split <;> rfl

theorem reg_combine_result {m : Machine} {x : Fin 16} (hx : x ≠ vf) (op : Arith) (y : Fin 16) :
    (((m.combine op x y).reg x).toNat : Int) = op.value (m.reg x).toNat (m.reg y).toNat := by
  rw [reg_combine_eq, combined]
  split
  · rw [if_neg hx, if_pos rfl]
  · rw [if_pos rfl]

theorem reg_combine_flag {m : Machine} {op : Arith} {x y : Fin 16} {flag : Nat}
    (h : op.report? (m.reg x).toNat (m.reg y).toNat = some flag) :
    ((m.combine op x y).reg vf).toNat = flag := by
  have hvf := m.reg_combine_eq op x y vf
  simp only [combined, h, if_true] at hvf
  omega

/-- If X, Y and F are three different registers, a subtraction takes an addition back.
There was a carry exactly if the subtraction has to borrow. -/
theorem add_sub_restores {m : Machine} {x y : Fin 16} (hxy : x ≠ y) (hx : x ≠ vf) (hy : y ≠ vf) :
    let t := m.combine .add x y
    let u := t.combine .sub x y
    (∀ j, j ≠ vf → u.reg j = m.reg j) ∧ (t.reg vf).toNat + (u.reg vf).toNat = 1 := by
  intro t u
  have ha := (m.reg x).toNat_lt
  have hb := (m.reg y).toNat_lt
  have hsame : t.reg y = m.reg y := reg_combine (Ne.symm hxy) (.inl hy) y
  have hsum : ((t.reg x).toNat : Int) = ((m.reg x).toNat + (m.reg y).toNat) % 256 :=
    reg_combine_result hx .add y
  have hdiff : ((u.reg x).toNat : Int) = ((t.reg x).toNat - (t.reg y).toNat) % 256 :=
    reg_combine_result hx .sub y
  have hcarry : (t.reg vf).toNat =
      if 255 < (m.reg x).toNat + (m.reg y).toNat then 1 else 0 := reg_combine_flag rfl
  have hborrow : (u.reg vf).toNat =
      if (t.reg y).toNat ≤ (t.reg x).toNat then 1 else 0 := reg_combine_flag rfl
  rw [hsame] at hdiff hborrow
  refine ⟨?_, ?_⟩
  · intro j hj
    by_cases hjx : j = x
    · subst hjx
      apply UInt8.toNat_inj.mp
      omega
    · have ht : t.reg j = m.reg j := reg_combine hjx (.inl hj) y
      have hu : u.reg j = t.reg j := reg_combine hjx (.inl hj) y
      rw [hu, ht]
  · split at hcarry <;> split at hborrow <;> omega

theorem reg_addByte (m : Machine) (x j : Fin 16) (nn : UInt8) :
    ((m.setReg x (m.reg x + nn)).reg j).toNat =
      if j = x then ((m.reg x).toNat + nn.toNat) % 256 else (m.reg j).toNat := by
  rw [reg_setReg]
  split
  · exact UInt8.toNat_add _ _
  · rfl

/-- **Registers.** Whatever registers coincide, an 8XYN word changes nothing but registers,
and each of them holds what integer arithmetic says. So does a 7XNN word, which writes
VX alone. If X, Y and F are different, 8XY5 after 8XY4 brings all registers back but
VF, which is then the complement of the carry. -/
theorem registers_exact (m : Machine) :
    (∀ op x y, ∃ regs, m.execute (Instruction.arith op x y).word = .ok { m with regs } ∧
      ∀ j, ((regs.get j).toNat : Int) = m.combined op x y j) ∧
    (∀ x nn, ∃ regs, m.execute (Instruction.addByte x nn).word = .ok { m with regs } ∧
      ∀ j, (regs.get j).toNat =
        if j = x then ((m.reg x).toNat + nn.toNat) % 256 else (m.reg j).toNat) ∧
    (∀ x y, x ≠ y → x ≠ vf → y ≠ vf →
      ∃ t u, m.execute (Instruction.arith .add x y).word = .ok t ∧
        t.execute (Instruction.arith .sub x y).word = .ok u ∧
        (∀ j, j ≠ vf → u.reg j = m.reg j) ∧
        (t.reg vf).toNat + (u.reg vf).toNat = 1) := by
  refine ⟨?_, ?_, ?_⟩
  · intro op x y
    refine ⟨(m.combine op x y).regs, ?_, m.reg_combine_eq op x y⟩
    rw [frame_combine]
    exact m.execute_word _
  · intro x nn
    exact ⟨_, m.execute_word _, fun j => m.reg_addByte x j nn⟩
  · intro x y hxy hx hy
    exact ⟨m.combine .add x y, _, m.execute_word _, execute_word _ _, add_sub_restores hxy hx hy⟩

/-- A machine with 200 in V1, 100 in V2 and 7 in VF. -/
def summing : Machine :=
  { blank ⟨0, 0⟩ .clip with
    regs := put (overwrite (Vector.replicate 16 0) 0 [0, 200, 100]) vf 7 }

/-- The sum of V1 and V2 carries, and VF takes the carry of its own sum with itself. -/
theorem registers_exact_summing :
    (∃ regs, summing.execute 0x8FF4 = .ok { summing with regs } ∧ (regs.get vf).toNat = 0) ∧
    ((1 : Fin 16) ≠ 2 ∧ (1 : Fin 16) ≠ vf ∧ (2 : Fin 16) ≠ vf) ∧
    ∃ t u, summing.execute 0x8124 = .ok t ∧ t.execute 0x8125 = .ok u ∧
      (∀ j, j ≠ vf → u.reg j = summing.reg j) ∧ (t.reg vf).toNat + (u.reg vf).toNat = 1 := by
  obtain ⟨harith, -, hrestores⟩ := registers_exact summing
  have hdiffer : (1 : Fin 16) ≠ 2 ∧ (1 : Fin 16) ≠ vf ∧ (2 : Fin 16) ≠ vf := by decide
  refine ⟨?_, hdiffer, hrestores 1 2 hdiffer.1 hdiffer.2.1 hdiffer.2.2⟩
  obtain ⟨regs, hexecute, hregs⟩ := harith .add vf vf
  have hcombined : summing.combined .add vf vf vf = 0 := by decide +kernel
  have hflag := hregs vf
  rw [hcombined] at hflag
  exact ⟨regs, hexecute, by omega⟩

end Machine
end Chip8
