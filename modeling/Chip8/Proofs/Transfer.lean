import Chip8.Proofs.FrameTable
import Chip8.Proofs.OpenBus
import Chip8.Proofs.Verdict

/-!
# Blocks of registers

FX55 copies the registers up to VX into memory from I on, FX65 copies them back. The
machine moves the block as a whole; a loop moves one byte after the other. `Stored`
and `Loaded` say byte by byte what a transfer leaves and what it leaves alone. Either
relation determines the machine afterwards, so that whatever keeps to it, the
instruction or a loop in some order, arrives at the same place, and what the transfers
do to each other follows from the relations alone.

Results:
* `Stored.unique`, `Loaded.unique`: the bytes leave no choice.
* `Stored.foldl_storeByte`, `Loaded.foldl_loadByte`: what the loops leave.
* `perform_store`, `perform_load`: what the instructions leave.
* `Stored.again`, `Loaded.stored`, `Stored.loaded`: a second store, a store after a
  load and a load after a store.
* `transfers_exact`: all of it.
-/
namespace Chip8
namespace Machine

variable {m t u : Machine} {block : Fin 16 → Prop} {x : Fin 16}

/-! ## Byte by byte -/

/-- Copies one register to its place in memory. -/
def storeByte (m : Machine) (j : Fin 16) : Machine :=
  { m with memory := m.memory.setIfInBounds (m.index.toNat + j) (m.reg j) }

/-- Copies one register from its place in memory. -/
def loadByte (m : Machine) (j : Fin 16) : Machine :=
  m.setReg j (m.memory[m.index.toNat + j.val]?.getD 0)

/-- `t` is the machine `m` with a block of its registers stored at I. -/
structure Stored (m t : Machine) (block : Fin 16 → Prop) : Prop where
  written : ∀ j, block j → t.memory[m.index.toNat + j.val]? = some (m.reg j)
  kept : ∀ a : Nat, (∀ j, block j → a ≠ m.index.toNat + j) → t.memory[a]? = m.memory[a]?
  rest : ∃ memory, t = { m with memory }

/-- `t` is the machine `m` with a block of its registers loaded from I. -/
structure Loaded (m t : Machine) (block : Fin 16 → Prop) : Prop where
  read : ∀ j, block j → m.memory[m.index.toNat + j.val]? = some (t.reg j)
  kept : ∀ j, ¬ block j → t.reg j = m.reg j
  rest : ∃ regs, t = { m with regs }

theorem Stored.unique (ht : m.Stored t block) (hu : m.Stored u block) : t = u := by
  have hcells : ∀ a : Nat, t.memory[a]? = u.memory[a]? := by
    intro a
    by_cases ha : ∃ j, block j ∧ a = m.index.toNat + j
    · obtain ⟨j, hj, rfl⟩ := ha
      rw [ht.written j hj, hu.written j hj]
    · have hout : ∀ j, block j → a ≠ m.index.toNat + j := fun j hj he => ha ⟨j, hj, he⟩
      rw [ht.kept a hout, hu.kept a hout]
  obtain ⟨memory, rfl⟩ := ht.rest
  obtain ⟨memory', rfl⟩ := hu.rest
  have hmemory : memory = memory' := by
    apply Vector.ext
    intro k hk
    simpa only [Vector.getElem?_eq_getElem hk, Option.some.injEq] using hcells k
  rw [hmemory]

theorem Loaded.unique (ht : m.Loaded t block) (hu : m.Loaded u block) : t = u := by
  have hregs : ∀ j, t.reg j = u.reg j := by
    intro j
    by_cases hj : block j
    · exact Option.some.inj ((ht.read j hj).symm.trans (hu.read j hj))
    · rw [ht.kept j hj, hu.kept j hj]
  obtain ⟨regs, rfl⟩ := ht.rest
  obtain ⟨regs', rfl⟩ := hu.rest
  have heq : regs = regs' := Vector.ext fun k hk => hregs ⟨k, hk⟩
  rw [heq]

/-! ## The loops -/

theorem stored_none (m : Machine) : m.Stored m fun _ => False :=
  ⟨nofun, fun _ _ => rfl, m.memory, rfl⟩

theorem loaded_none (m : Machine) : m.Loaded m fun _ => False :=
  ⟨nofun, fun _ _ => rfl, m.regs, rfl⟩

/-- Storing one register more adds it to the block. -/
theorem Stored.storeByte (h : m.Stored t block) {j : Fin 16} (hj : m.index.toNat + j < 4096) :
    m.Stored (t.storeByte j) fun i => i = j ∨ block i := by
  obtain ⟨memory, rfl⟩ := h.rest
  refine ⟨?_, ?_, _, rfl⟩
  · intro i hi
    by_cases hij : i = j
    · subst hij
      exact Vector.getElem?_setIfInBounds_self_of_lt hj
    · have hne : m.index.toNat + j.val ≠ m.index.toNat + i.val := by omega
      exact (Vector.getElem?_setIfInBounds_ne hne).trans (h.written i (hi.resolve_left hij))
  · intro a ha
    have hne : m.index.toNat + j.val ≠ a := Ne.symm (ha j (.inl rfl))
    exact (Vector.getElem?_setIfInBounds_ne hne).trans (h.kept a fun i hi => ha i (.inr hi))

/-- Loading one register more adds it to the block. -/
theorem Loaded.loadByte (h : m.Loaded t block) {j : Fin 16} (hj : m.index.toNat + j < 4096) :
    m.Loaded (t.loadByte j) fun i => i = j ∨ block i := by
  obtain ⟨regs, rfl⟩ := h.rest
  refine ⟨?_, ?_, _, rfl⟩
  · intro i hi
    rw [Machine.loadByte, reg_setReg]
    split
    · next hij =>
      subst hij
      simp only [Vector.getElem?_eq_getElem hj, Option.getD_some]
    · next hij => exact h.read i (hi.resolve_left hij)
  · intro i hi
    rw [Machine.loadByte, reg_setReg_of_ne fun hij => hi (.inl hij)]
    exact h.kept i fun hb => hi (.inr hb)

theorem Stored.foldl_storeByte (h : m.Stored t block) {order : List (Fin 16)}
    (hfits : ∀ j ∈ order, m.index.toNat + j.val < 4096) :
    m.Stored (order.foldl Machine.storeByte t) fun j => j ∈ order ∨ block j := by
  induction order generalizing t block with
  | nil => simpa using h
  | cons j order ih =>
    have hrest := ih (h.storeByte (hfits j List.mem_cons_self))
      fun i hi => hfits i (List.mem_cons_of_mem j hi)
    simpa only [List.foldl_cons, List.mem_cons, or_left_comm, or_assoc] using hrest

theorem Loaded.foldl_loadByte (h : m.Loaded t block) {order : List (Fin 16)}
    (hfits : ∀ j ∈ order, m.index.toNat + j.val < 4096) :
    m.Loaded (order.foldl Machine.loadByte t) fun j => j ∈ order ∨ block j := by
  induction order generalizing t block with
  | nil => simpa using h
  | cons j order ih =>
    have hrest := ih (h.loadByte (hfits j List.mem_cons_self))
      fun i hi => hfits i (List.mem_cons_of_mem j hi)
    simpa only [List.foldl_cons, List.mem_cons, or_left_comm, or_assoc] using hrest

/-! ## The instructions -/

/-- The registers up to VX, in any order. -/
def Spans (order : List (Fin 16)) (x : Fin 16) : Prop := ∀ j, j ∈ order ↔ j ≤ x

theorem Spans.fits {order : List (Fin 16)} (ho : Spans order x)
    (h : m.index.toNat + x + 1 ≤ 4096) : ∀ j ∈ order, m.index.toNat + j.val < 4096 := by
  intro j hj
  have hle := (ho j).mp hj
  omega

theorem Stored.of_spans {order : List (Fin 16)} (ho : Spans order x)
    (h : m.index.toNat + x + 1 ≤ 4096) : m.Stored (order.foldl Machine.storeByte m) (· ≤ x) := by
  simpa only [or_false, ho _] using m.stored_none.foldl_storeByte (ho.fits h)

theorem Loaded.of_spans {order : List (Fin 16)} (ho : Spans order x)
    (h : m.index.toNat + x + 1 ≤ 4096) : m.Loaded (order.foldl Machine.loadByte m) (· ≤ x) := by
  simpa only [or_false, ho _] using m.loaded_none.foldl_loadByte (ho.fits h)

theorem perform_store (h : m.index.toNat + x + 1 ≤ 4096) :
    ∃ t, m.perform (.store x) = .ok t ∧ m.Stored t (· ≤ x) := by
  have hlen := m.length_take_regs x
  have hfits : m.index.toNat + (m.regs.toList.take (x + 1)).length ≤ 4096 := by omega
  obtain ⟨memory, hw⟩ := exists_writeBlock? m.memory hfits
  have hperform : m.perform (.store x) = .ok { m with memory } := by simp only [perform, hw]
  refine ⟨{ m with memory }, hperform, ?_, ?_, memory, rfl⟩
  · intro j hj
    have hin : m.index.toNat + j.val < 4096 := by omega
    have hback : m.index.toNat + j.val - m.index.toNat = j := by omega
    simp only [Vector.getElem?_eq_getElem hin, writeBlock?_eq_some hw]
    rw [getElem_overwrite_of_lt (by omega) (by omega), List.getElem_take, Vector.getElem_toList]
    simp only [hback]
    rfl
  · intro a ha
    by_cases hin : a < 4096
    · have hkept : m.storesAt ⟨a, hin⟩ (.store x) = false := by
        rw [Bool.eq_false_iff]
        intro hat
        simp only [storesAt, Bool.and_eq_true, decide_eq_true_eq] at hat
        have hlane : a - m.index.toNat < 16 := by omega
        have hle : (⟨a - m.index.toNat, hlane⟩ : Fin 16) ≤ x := by
          rw [Fin.le_def]
          simp only
          omega
        exact ha _ hle (by simp only; omega)
      have hcell := cell_perform hperform hkept
      simp only [Vector.getElem?_eq_getElem hin]
      exact congrArg some hcell
    · simp only [Vector.getElem?_eq_none (Nat.le_of_not_lt hin)]

theorem perform_load (h : m.index.toNat + x + 1 ≤ 4096) :
    ∃ t, m.perform (.load x) = .ok t ∧ m.Loaded t (· ≤ x) := by
  have hfits : m.index.toNat + (x.val + 1) ≤ 4096 := h
  obtain ⟨bytes, hr⟩ := exists_readBlock? m.memory hfits
  have hperform : m.perform (.load x) = .ok { m with regs := overwrite m.regs 0 bytes } := by
    simp only [perform, hr]
  refine ⟨_, hperform, ?_, ?_, _, rfl⟩
  · intro j hj
    obtain ⟨-, rfl⟩ := readBlock?_eq_some hr
    have hin : m.index.toNat + j.val < 4096 := by omega
    rw [Vector.getElem?_eq_getElem hin]
    refine congrArg some (Eq.symm ?_)
    refine (getElem_overwrite_of_lt (Nat.zero_le j.val) ?_).trans ?_
    · rw [List.length_ofFn]
      omega
    · rw [List.getElem_ofFn]
      rfl
  · intro j hj
    have hkept : m.sets j (.load x) = false := by simpa [sets] using hj
    exact reg_perform hperform hkept

theorem perform_store_of_stored (h : m.index.toNat + x + 1 ≤ 4096) (ht : m.Stored t (· ≤ x)) :
    m.perform (.store x) = .ok t := by
  obtain ⟨u, hperform, hu⟩ := perform_store h
  rw [hperform, hu.unique ht]

/-- A block that reaches past the end of memory is not moved at all. -/
theorem perform_of_over {i : Instruction} (hi : i = .store x ∨ i = .load x)
    (h : 4096 < m.index.toNat + x + 1) : m.perform i = .error .memoryOutOfBounds := by
  have hfault : i.fault? m.stack.depth m.index.toNat = some .memoryOutOfBounds := by
    rcases hi with rfl | rfl <;> exact if_pos (by omega)
  exact perform_of_fault hfault

/-! ## One after the other -/

/-- A second store changes nothing. -/
theorem Stored.again (h : m.Stored t block) : t.Stored t block := by
  obtain ⟨memory, rfl⟩ := h.rest
  exact ⟨h.written, fun _ _ => rfl, memory, rfl⟩

/-- Nor does a store after a load. -/
theorem Loaded.stored (h : m.Loaded t block) : t.Stored t block := by
  obtain ⟨regs, rfl⟩ := h.rest
  exact ⟨h.read, fun _ _ => rfl, m.memory, rfl⟩

/-- What is loaded from a block that was stored are the registers as they were. -/
theorem Stored.loaded {s : Machine} (ht : m.Stored t block) (hmemory : s.memory = t.memory)
    (hindex : s.index = t.index) (hu : s.Loaded u block) (j : Fin 16) (hj : block j) :
    u.reg j = m.reg j := by
  obtain ⟨memory, rfl⟩ := ht.rest
  have hread := hu.read j hj
  rw [hmemory, hindex] at hread
  exact Option.some.inj (hread.symm.trans (ht.written j hj))

/-- Executing the word of an instruction ends with `r`, and so it does on a machine that
runs the instruction in full, on any bus. -/
def Executes (m : Machine) (i : Instruction) (r : Except Fault Machine) : Prop :=
  m.execute i.word = r ∧ ∀ bus, m.executeOn bus i.word = m.settle r

theorem executes_of_perform {i : Instruction} {r : Except Fault Machine} (h : m.perform i = r) :
    m.Executes i r := by
  have hexecute : m.execute i.word = r := by rw [execute_word, h]
  exact ⟨hexecute, fun bus => by rw [executeOn_eq, hexecute]⟩

/-- **Transfers.** If the block from I on fits into memory, FX55 and FX65 leave what a loop
leaves that copies the registers up to VX one after the other, in any order: V0 to VX
are written to the cells from I on, or read from there, and nothing else changes. A
store leaves nothing for a second one to do, and neither does a load. A load restores
the registers that were stored, whatever became of the machine in between, unless its
memory or I has changed. If the block does not fit, nothing changes. -/
theorem transfers_exact (m : Machine) (x : Fin 16) :
    (m.index.toNat + x + 1 ≤ 4096 →
      (∃ t, m.Executes (.store x) (.ok t) ∧ m.Stored t (· ≤ x) ∧
        (∀ order, Spans order x → order.foldl storeByte m = t) ∧
        t.Executes (.store x) (.ok t) ∧
        ∀ s : Machine, s.memory = t.memory → s.index = t.index →
          ∃ u, s.Executes (.load x) (.ok u) ∧ s.Loaded u (· ≤ x) ∧ ∀ j ≤ x, u.reg j = m.reg j) ∧
      ∃ t, m.Executes (.load x) (.ok t) ∧ m.Loaded t (· ≤ x) ∧
        (∀ order, Spans order x → order.foldl loadByte m = t) ∧
        t.Executes (.store x) (.ok t)) ∧
    (4096 < m.index.toNat + x + 1 →
      m.Executes (.store x) (.error .memoryOutOfBounds) ∧
        m.Executes (.load x) (.error .memoryOutOfBounds)) := by
  refine ⟨fun h => ⟨?_, ?_⟩, ?_⟩
  · obtain ⟨t, hperform, ht⟩ := perform_store h
    have hindex : t.index = m.index := by
      obtain ⟨memory, rfl⟩ := ht.rest
      rfl
    rw [← hindex] at h
    refine ⟨t, executes_of_perform hperform, ht, ?_, ?_, ?_⟩
    · intro order ho
      exact (Stored.of_spans ho (hindex ▸ h)).unique ht
    · exact executes_of_perform (perform_store_of_stored h ht.again)
    · intro s hmemory hsame
      rw [← hsame] at h
      obtain ⟨u, hload, hu⟩ := perform_load h
      exact ⟨u, executes_of_perform hload, hu, ht.loaded hmemory hsame hu⟩
  · obtain ⟨t, hperform, ht⟩ := perform_load h
    have hindex : t.index = m.index := by
      obtain ⟨regs, rfl⟩ := ht.rest
      rfl
    refine ⟨t, executes_of_perform hperform, ht, ?_, ?_⟩
    · intro order ho
      exact (Loaded.of_spans ho h).unique ht
    · rw [← hindex] at h
      exact executes_of_perform (perform_store_of_stored h ht.stored)
  · intro h
    exact ⟨executes_of_perform (perform_of_over (.inl rfl) h),
      executes_of_perform (perform_of_over (.inr rfl) h)⟩

/-- Two registers fit between I and the end of memory, although sixteen would not, and
come back after all registers were set to FF. Three do not fit. -/
theorem transfers_exact_storing :
    (storing.index.toNat + 1 + 1 ≤ 4096 ∧
      ∃ t, storing.execute 0xF155 = .ok t ∧ [1, 0].foldl storeByte storing = t ∧
        t.execute 0xF155 = .ok t ∧
        ∃ u, ({ t with regs := Vector.replicate 16 0xFF } : Machine).execute 0xF165 = .ok u ∧
          u.reg 0 = 7 ∧ u.reg 1 = 9 ∧ u.reg 2 = 0xFF) ∧
    (4096 < storing.index.toNat + 2 + 1 ∧ storing.execute 0xF255 = .error .memoryOutOfBounds ∧
      storing.execute 0xF265 = .error .memoryOutOfBounds) := by
  have hfits : storing.index.toNat + 1 + 1 ≤ 4096 := by decide
  have hover : 4096 < storing.index.toNat + 2 + 1 := by decide
  have hspans : Spans [1, 0] 1 := by unfold Spans; decide
  refine ⟨⟨hfits, ?_⟩, hover, ?_⟩
  · obtain ⟨t, hstore, -, hloop, hagain, hback⟩ := ((transfers_exact storing 1).1 hfits).1
    obtain ⟨u, hload, hu, hrestored⟩ :=
      hback { t with regs := Vector.replicate 16 0xFF } rfl rfl
    refine ⟨t, hstore.1, hloop _ hspans, hagain.1, u, hload.1, ?_, ?_, ?_⟩
    · exact (hrestored 0 (by decide)).trans (by decide)
    · exact (hrestored 1 (by decide)).trans (by decide)
    · exact hu.kept 2 (by decide)
  · obtain ⟨hstore, hload⟩ := (transfers_exact storing 2).2 hover
    exact ⟨hstore.1, hload.1⟩

end Machine
end Chip8
