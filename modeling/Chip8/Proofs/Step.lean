import Chip8.Proofs.Word
import Chip8.Step

/-!
# The step, opened once

A step reads the word at the program counter, reads that word as an instruction
and carries the instruction out on the machine that has moved past it. The
other modules know a step through these facts:

* `execute_word`: executing the word of an instruction carries the instruction out.
* `spells_iff`: which instruction the two bytes at the program counter spell.
* `step_eq_of_spells`: a step carries out the instruction that is spelled.
* `step_eq_ok_iff`: a step completes exactly when some instruction is spelled
  and can be carried out.
-/
namespace Chip8
namespace Machine

def fetched (m : Machine) (w : UInt16) : Machine := { m with pc := m.pc + 2, opcode := w }

theorem reg_fetched (m : Machine) (w : UInt16) (x : Fin 16) : (m.fetched w).reg x = m.reg x := rfl

def word? (m : Machine) : Option UInt16 := m.memory.word? m.pc.toNat

/-- The instruction at the program counter, if the word there spells one. -/
def pending? (m : Machine) : Option Instruction :=
  m.word?.bind fun w => Instruction.ofInt? w.toNat

/-- The two bytes at the program counter, high byte first, are the word of `i`. -/
def Spells (m : Machine) (i : Instruction) : Prop :=
  ∃ h : m.pc.toNat + 1 < 4096,
    256 * m.memory[m.pc.toNat].toNat + m.memory[m.pc.toNat + 1].toNat = i.word

theorem execute_word (m : Machine) (i : Instruction) : m.execute i.word = m.perform i := by
  rw [execute, Instruction.ofInt?_word]

theorem fetch_eq_ok_iff {m t : Machine} {w : UInt16} :
    m.fetch = .ok (w, t) ↔ m.word? = some w ∧ t = m.fetched w := by
  unfold fetch word?
  cases m.memory.word? m.pc.toNat with
  | none => simp
  | some v =>
    simp only [Except.ok.injEq, Prod.mk.injEq, Option.some.injEq]
    constructor
    · rintro ⟨rfl, rfl⟩
      exact ⟨rfl, rfl⟩
    · rintro ⟨rfl, rfl⟩
      exact ⟨rfl, rfl⟩

theorem step_eq (m : Machine) : m.step =
    match m.word? with
    | none => .error .pcOutOfRange
    | some w =>
      match Instruction.ofInt? w.toNat with
      | none => .error .unknownInstruction
      | some i => (m.fetched w).perform i := by
  unfold step fetch word?
  cases m.memory.word? m.pc.toNat with
  | none => rfl
  | some w => rfl

theorem word?_eq_none_iff (m : Machine) : m.word? = none ↔ 0xFFE < m.pc.toNat := by
  rw [word?, Memory.word?_eq_none_iff]; omega

theorem word?_eq_some_iff (m : Machine) (w : UInt16) : m.word? = some w ↔
    ∃ h : m.pc.toNat + 1 < 4096,
      256 * m.memory[m.pc.toNat].toNat + m.memory[m.pc.toNat + 1].toNat = w.toNat := by
  unfold word? Memory.word?
  by_cases h : m.pc.toNat + 1 < 4096
  · rw [dif_pos h, Option.some.injEq, ← UInt16.toNat_inj, toNat_bigEndian]
    exact ⟨fun e => ⟨h, e⟩, fun ⟨_, e⟩ => e⟩
  · rw [dif_neg h]
    exact ⟨nofun, fun ⟨h', _⟩ => absurd h' h⟩

theorem spells_iff (m : Machine) (i : Instruction) : m.Spells i ↔ m.pending? = some i := by
  unfold pending? Spells
  cases hw : m.word? with
  | none =>
    have hpc := m.word?_eq_none_iff.mp hw
    refine ⟨?_, nofun⟩
    rintro ⟨h, -⟩
    omega
  | some w =>
    obtain ⟨h, hb⟩ := (m.word?_eq_some_iff w).mp hw
    rw [Option.bind_some, Instruction.ofInt?_eq_some_iff w.toNat_lt, ← hb]
    exact ⟨fun ⟨_, e⟩ => e.symm, fun e => ⟨h, e.symm⟩⟩

theorem Spells.unique {m : Machine} {i j : Instruction} (hi : m.Spells i) (hj : m.Spells j) :
    i = j :=
  Option.some.inj (((m.spells_iff i).mp hi).symm.trans ((m.spells_iff j).mp hj))

theorem Spells.pc_le {m : Machine} {i : Instruction} (h : m.Spells i) : m.pc.toNat ≤ 0xFFE := by
  obtain ⟨hpc, -⟩ := h
  omega

theorem step_eq_of_spells {m : Machine} {i : Instruction} (h : m.Spells i) :
    ∃ w, m.word? = some w ∧ w.toNat = i.word ∧ m.step = (m.fetched w).perform i := by
  obtain ⟨hpc, hb⟩ := h
  have hw := (m.word?_eq_some_iff (UInt16.ofNat i.word)).mpr
  rw [UInt16.toNat_ofNat_of_lt' i.word_lt] at hw
  refine ⟨_, hw ⟨hpc, hb⟩, UInt16.toNat_ofNat_of_lt' i.word_lt, ?_⟩
  rw [step_eq, hw ⟨hpc, hb⟩]
  simp only [UInt16.toNat_ofNat_of_lt' i.word_lt, Instruction.ofInt?_word]

/-- A completed step carried out the instruction at the program counter, on the
machine that had moved past it. -/
theorem step_eq_ok_iff {m m' : Machine} : m.step = .ok m' ↔
    ∃ i w, m.Spells i ∧ w.toNat = i.word ∧ (m.fetched w).perform i = .ok m' := by
  constructor
  · intro h
    rw [step_eq] at h
    cases hw : m.word? with
    | none => rw [hw] at h; cases h
    | some w =>
      rw [hw] at h
      cases hi : Instruction.ofInt? w.toNat with
      | none => simp only [hi] at h; cases h
      | some i =>
        simp only [hi] at h
        have hs : m.Spells i := (m.spells_iff i).mpr (by rw [pending?, hw, Option.bind_some, hi])
        exact ⟨i, w, hs, (Instruction.word_of_ofInt? w.toNat w.toNat_lt i hi).symm, h⟩
  · rintro ⟨i, w, hs, hw, h⟩
    obtain ⟨v, -, hv, hstep⟩ := step_eq_of_spells hs
    rw [hstep, UInt16.toNat_inj.mp (hv.trans hw.symm), h]

end Machine
end Chip8
