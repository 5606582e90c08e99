import Chip8.Proofs.FrameTable

/-!
# Where a step lands

A step moves past its word when it fetches it, and the instruction then moves the
program counter once more or not at all, in sixteen bits. `Lands` says in unbounded
numbers where a step that completes comes out, seen from the machine before it.

Skips come in pairs on opposite conditions. Both look at the same registers, or at the
same key, so that on one machine exactly one of them is taken.

Results:
* `lands_of_step`, `opcode_of_step`: where a step lands and what it records.
* `perform_of_opposite`, `skips_of_opposite`: a skip does nothing but skip, and its
  opposite is taken when it is not.
* `keyDown_eq`, `skips_keypad`: EX9E and EXA1 do not see the other keys.
* `landing_exact`: all of it.
-/
namespace Chip8

/-- The skip on the opposite condition. -/
def Instruction.opposite? : Instruction → Option Instruction
  | .skipEqByte x nn => some (.skipNeByte x nn)
  | .skipNeByte x nn => some (.skipEqByte x nn)
  | .skipEqReg x y => some (.skipNeReg x y)
  | .skipNeReg x y => some (.skipEqReg x y)
  | .skipPressed x => some (.skipReleased x)
  | .skipReleased x => some (.skipPressed x)
  | _ => none

namespace Machine

variable {m t : Machine} {i j : Instruction}

/-! ## Steps -/

/-- A step from `m` that carries out the instruction comes out at `t` where it should, in
unbounded numbers. A return is promised to come out only from an address of twelve bits. -/
def Lands (m t : Machine) : Instruction → Prop
  | .ret => ∃ a, m.stack.entries.getLast? = some a ∧
      (a.toNat ≤ 0xFFF → t.pc.toNat = a.toNat + 2)
  | .jump nnn => t.pc.toNat = nnn
  | .call nnn => t.pc.toNat = nnn
  | .jumpOffset nnn => t.pc.toNat = nnn + (m.reg v0).toNat
  | .waitKey _ =>
    ((∀ key, m.keypad.isDown key = false) → t.pc.toNat = m.pc.toNat) ∧
      ∀ key, m.keypad.isDown key = true → t.pc.toNat = m.pc.toNat + 2
  | i => t.pc.toNat = if m.skips i then m.pc.toNat + 4 else m.pc.toNat + 2

theorem lands_of_step (hs : m.Spells i) (h : m.step = .ok t) : m.Lands t i := by
  -- a return needs no goal: the address is on the stack
  have hgoal (hi : i ≠ .ret) : (t.pc.toNat : Int) = m.goal i :=
    step_pc_of hs h fun he => absurd he hi
  cases i with
  | ret =>
    obtain ⟨a, hpop, hpc⟩ := step_stack hs h
    refine ⟨a, ?_, fun ha => ?_⟩
    · rw [CallStack.entries_pop hpop, List.getLast?_concat]
    · rw [hpc, toNat_add_two (by omega)]
  | jump nnn | call nnn | jumpOffset nnn =>
    replace hgoal := hgoal (by simp)
    simp only [goal] at hgoal
    simp only [Lands]
    omega
  | waitKey x =>
    replace hgoal := hgoal (by simp)
    simp only [goal, Keypad.highest?_eq_none_iff] at hgoal
    refine ⟨fun hup => ?_, fun key hdown => ?_⟩
    · rw [if_pos hup] at hgoal
      omega
    · have hsome : ¬ ∀ key, m.keypad.isDown key = false := fun hup => by
        rw [hup key] at hdown
        cases hdown
      rw [if_neg hsome] at hgoal
      omega
  | _ =>
    replace hgoal := hgoal (by simp)
    simp only [goal] at hgoal
    simp only [Lands]
    split at hgoal
    · next hskip => rw [if_pos hskip]; omega
    · next hskip => rw [if_neg hskip]; omega

/-- The word at the program counter is what a step records. -/
theorem opcode_of_step (h : m.step = .ok t) : m.word? = some t.opcode := by
  obtain ⟨i, -, hs, -, -⟩ := step_eq_ok_iff.mp h
  obtain ⟨w, hword, -, hstep⟩ := step_eq_of_spells hs
  have hopcode : t.opcode = w := perform_keeps (p := .opcode) (hstep.symm.trans h) rfl
  rw [hword, hopcode]

/-! ## Skips -/

theorem skips_of_opposite (h : i.opposite? = some j) : m.skips j = !m.skips i := by
  cases i with
  | skipEqByte x nn | skipEqReg x y | skipPressed x =>
    cases h
    rfl
  | skipNeByte x nn | skipNeReg x y | skipReleased x =>
    cases h
    exact (Bool.not_not _).symm
  | _ => cases h

theorem opposite?_symm (h : i.opposite? = some j) : j.opposite? = some i := by
  cases i with
  | skipEqByte x nn | skipNeByte x nn | skipEqReg x y | skipNeReg x y =>
    cases h
    rfl
  | skipPressed x | skipReleased x =>
    cases h
    rfl
  | _ => cases h

theorem perform_of_opposite (h : i.opposite? = some j) :
    m.perform i = .ok (m.skipIf (m.skips i)) := by
  cases i with
  | skipEqByte x nn | skipNeByte x nn | skipEqReg x y | skipNeReg x y => rfl
  | skipPressed x | skipReleased x => rfl
  | _ => cases h

theorem skipIf_keypad (m : Machine) (keypad : Keypad) (c : Bool) :
    ({ m with keypad } : Machine).skipIf c = { m.skipIf c with keypad } := by
  cases c <;> rfl

theorem keyDown_eq {x key : Fin 16} (hkey : key.val = (m.reg x).toNat % 16) :
    m.keyDown x = m.keypad.isDown key :=
  congrArg m.keypad.isDown (Fin.ext hkey.symm)

theorem skips_keypad {x key : Fin 16} (hkey : key.val = (m.reg x).toNat % 16) {keypad : Keypad}
    (h : keypad.isDown key = m.keypad.isDown key)
    (hi : i = .skipPressed x ∨ i = .skipReleased x) :
    ({ m with keypad } : Machine).skips i = m.skips i := by
  have hreg : ({ m with keypad } : Machine).reg x = m.reg x := rfl
  have hdown : ({ m with keypad } : Machine).keyDown x = m.keyDown x := by
    rw [keyDown_eq (hreg ▸ hkey), keyDown_eq hkey, h]
  rcases hi with rfl | rfl
  · exact hdown
  · exact congrArg not hdown

/-- **Landing.** A step that completes records the word at the program counter and comes
out where the instruction of that word should, in unbounded numbers. Of two opposite
skips one is taken and the other is not, whatever the machine, and neither does anything
else. EX9E and EXA1 look at the key that VX names modulo 16, and a machine with another
keypad on which that key is the same does the same. -/
theorem landing_exact (m : Machine) :
    (∀ t, m.step = .ok t → m.word? = some t.opcode ∧ ∃ i, m.Spells i ∧ m.Lands t i) ∧
    (∀ i j, i.opposite? = some j →
      m.execute i.word = .ok (m.skipIf (m.skips i)) ∧
        m.execute j.word = .ok (m.skipIf (!m.skips i))) ∧
    ∀ x key : Fin 16, key.val = (m.reg x).toNat % 16 →
      m.skips (.skipPressed x) = m.keypad.isDown key ∧
        ∀ keypad : Keypad, keypad.isDown key = m.keypad.isDown key →
          ∀ i : Instruction, i = .skipPressed x ∨ i = .skipReleased x →
            ({ m with keypad } : Machine).execute i.word =
              (m.execute i.word).map ({ · with keypad }) := by
  refine ⟨?_, ?_, fun x key hkey => ⟨keyDown_eq hkey, ?_⟩⟩
  · intro t h
    obtain ⟨i, -, hs, -, -⟩ := step_eq_ok_iff.mp h
    exact ⟨opcode_of_step h, i, hs, lands_of_step hs h⟩
  · intro i j h
    rw [execute_word, execute_word, perform_of_opposite h,
      perform_of_opposite (opposite?_symm h), skips_of_opposite h]
    exact ⟨rfl, rfl⟩
  · intro keypad hsame i hi
    have hskip : ∃ j, i.opposite? = some j := by
      rcases hi with rfl | rfl <;> exact ⟨_, rfl⟩
    obtain ⟨j, h⟩ := hskip
    rw [execute_word, execute_word, perform_of_opposite h, perform_of_opposite h,
      skips_keypad hkey hsame hi, skipIf_keypad]
    rfl

/-- EX9E in the last word of memory, with its key and another one down. -/
def atLastWord : Machine :=
  { blank ⟨0, 0⟩ .clip with
    memory := overwrite (Vector.replicate 4096 0) 0xFFE [0xE1, 0x9E]
    regs := overwrite (Vector.replicate 16 0) 0 [0, 0x15]
    keypad := ⟨Vector.ofFn fun key => key.val == 5 || key.val == 9⟩
    pc := 0xFFE }

/-- The skip is taken past the end of memory, its opposite is not, and the other key does
not count. -/
theorem landing_exact_atLastWord :
    let key : Fin 16 := 5
    let alone := Keypad.ofKeys [key]
    (∃ t, atLastWord.step = .ok t ∧ t.opcode = 0xE19E ∧ t.pc.toNat = 0x1002) ∧
    ((Instruction.skipPressed 1).opposite? = some (.skipReleased 1) ∧
      atLastWord.execute 0xE1A1 = .ok atLastWord) ∧
    (key.val = (atLastWord.reg 1).toNat % 16 ∧
      alone.isDown key = atLastWord.keypad.isDown key ∧
      ({ atLastWord with keypad := alone } : Machine).execute 0xE19E =
        .ok { atLastWord with keypad := alone, pc := 0x1000 }) := by
  intro key alone
  obtain ⟨hsteps, hskips, hkeys⟩ := landing_exact atLastWord
  have hopposite : (Instruction.skipPressed 1).opposite? = some (.skipReleased 1) := rfl
  have htaken : atLastWord.skips (.skipPressed 1) = true := by decide
  have hkey : key.val = (atLastWord.reg 1).toNat % 16 := by decide
  have hsame : alone.isDown key = atLastWord.keypad.isDown key := by decide
  obtain ⟨hpressed, hreleased⟩ := hskips _ _ hopposite
  rw [htaken] at hpressed hreleased
  refine ⟨?_, ⟨hopposite, hreleased⟩, hkey, hsame, ?_⟩
  · have hskip : atLastWord.Spells (.skipPressed 1) := by unfold Spells; decide +kernel
    obtain ⟨w, hword, hw, hstep⟩ := step_eq_of_spells hskip
    have ht := hstep.trans (perform_of_opposite hopposite)
    obtain ⟨hopcode, i, hs, hlands⟩ := hsteps _ ht
    obtain rfl : i = .skipPressed 1 := hs.unique hskip
    simp only [Lands, htaken] at hlands
    refine ⟨_, ht, ?_, hlands⟩
    rw [← Option.some.inj (hword.symm.trans hopcode)]
    exact UInt16.toNat_inj.mp hw
  · have halone := (hkeys 1 key hkey).2 alone hsame _ (.inl rfl)
    rw [hpressed] at halone
    exact halone

end Machine
end Chip8
