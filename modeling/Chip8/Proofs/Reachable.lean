import Chip8.Proofs.Subroutine

/-!
# What holds in every reachable machine

`Inv` is the invariant of a machine that a host has driven from its start: the
stack slots in use are the calls not yet returned from, each holds an address
that could be fetched from, and the program counter is within the reach of the
farthest jump. `Exact` says that the 16-bit arithmetic of a step on the program
counter is arithmetic in the integers.

Results:
* `inv_boot`, `inv_handle`: the invariant holds at the start and no event breaks
  it.
* `exact_of_inv`: under the invariant no step wraps.
* `boot_reaches`: both, after any actions of the host.
-/
namespace Chip8
namespace Machine

/-! ## The invariant -/

/-- The invariant, of a machine and the instructions completed so far. -/
structure Inv (m : Machine) (done : List Instruction) : Prop where
  count : m.stack.depth + done.countP Instruction.isRet = done.countP Instruction.isCall
  clean : m.stack.Clean
  low : ∀ a ∈ m.stack.entries, a.toNat ≤ 0xFFE
  pc : m.pc.toNat ≤ 0x10FE

theorem inv_boot (random : RandomKey) (edges : Edges) : (boot random edges).Inv [] := by
  refine ⟨rfl, CallStack.clean_empty, ?_, ?_⟩
  · intro a ha
    cases ha
  · show (0x200 : UInt16).toNat ≤ 0x10FE
    decide

theorem pc_handle {m : Machine} {done : List Instruction} (h : m.Inv done) (e : Event) :
    (m.handle e).pc.toNat ≤ 0x10FE := by
  rcases m.effect e with ⟨he, -⟩ | ⟨hm, -⟩ | ⟨i, w, hs, -, hstep, -⟩
  · rw [(m.handle_host e he).2]
    exact h.pc
  · rw [hm]
    exact h.pc
  · have hgoal := step_pc hs hstep h.low
    have hle := m.goal_le i hs.pc_le h.low
    omega

theorem low_handle {m : Machine} (h : ∀ a ∈ m.stack.entries, a.toNat ≤ 0xFFE) (e : Event) :
    ∀ a ∈ (m.handle e).stack.entries, a.toNat ≤ 0xFFE := by
  intro a ha
  rcases m.moves e with ⟨hst, -⟩ | ⟨nnn, -, hpc, hpush⟩ | ⟨b, -, -, -, -, hpop, -⟩
  · rw [hst] at ha
    exact h a ha
  · rw [CallStack.entries_push hpush, CallStack.mask_eq (by omega), List.mem_append] at ha
    rcases ha with ha | ha
    · exact h a ha
    · rw [List.mem_singleton.mp ha]
      exact hpc
  · refine h a ?_
    rw [CallStack.entries_pop hpop]
    exact List.mem_append_left _ ha

/-- An event deepens the stack by the calls it completes less the returns. -/
theorem depth_handle (m : Machine) (e : Event) :
    (m.handle e).stack.depth + (m.completes? e).toList.countP Instruction.isRet =
      m.stack.depth + (m.completes? e).toList.countP Instruction.isCall := by
  rcases m.moves e with ⟨hst, hi⟩ | ⟨nnn, hi, -, hpush⟩ | ⟨a, -, hi, -, -, hpop, -⟩
  · rw [hst]
    cases hc : m.completes? e with
    | none => rfl
    | some i =>
      obtain ⟨h1, h2⟩ := hi i hc
      rw [Option.toList_some, List.countP_singleton, List.countP_singleton, h1, h2]
  · obtain ⟨-, hd, -⟩ := CallStack.push?_eq_some hpush
    rw [hi]
    exact hd
  · obtain ⟨-, hd, -⟩ := CallStack.pop?_eq_some hpop
    rw [hi]
    exact hd.symm

theorem inv_handle {m : Machine} {done : List Instruction} (h : m.Inv done) (e : Event) :
    (m.handle e).Inv (done ++ (m.completes? e).toList) := by
  refine ⟨?_, clean_handle h.clean e, low_handle h.low e, pc_handle h e⟩
  have hc := h.count
  have hd := m.depth_handle e
  rw [List.countP_append, List.countP_append]
  omega

theorem inv_actAll (random : RandomKey) (edges : Edges) (as : List Action) :
    ((boot random edges).actAll as).Inv ((boot random edges).completed as) := by
  rw [actAll_eq]
  exact handleAll_induction (inv_boot random edges) (fun t done e h => inv_handle h e) _

/-! ## No step wraps -/

/-- The 16-bit arithmetic of a step from `m` to `m'`, which carries out `i`, is
arithmetic in the integers. -/
structure Exact (m m' : Machine) (i : Instruction) : Prop where
  /-- Moving past the instruction. -/
  fetch : (m.pc + 2).toNat = m.pc.toNat + 2
  /-- Going back to it, as a call and a wait for a key do. -/
  back : ((m.pc + 2 - 2).toNat : Int) = (m.pc + 2).toNat - 2
  goes : (m'.pc.toNat : Int) = m.goal i
  /-- The mask of a push changes nothing. -/
  pushed : i.isCall = true → m'.stack.entries = m.stack.entries ++ [m.pc + 2 - 2]

theorem exact_of_inv {m m' : Machine} {done : List Instruction} (h : m.Inv done)
    (hstep : m.step = .ok m') : ∃ i, m.Spells i ∧ m.Exact m' i := by
  obtain ⟨i, hs, -⟩ := completes?_of_ok hstep
  have hle := hs.pc_le
  have hfetch : (m.pc + 2).toNat = m.pc.toNat + 2 := toNat_add_two (by omega)
  refine ⟨i, hs, hfetch, ?_, step_pc hs hstep h.low, ?_⟩
  · rw [UInt16.add_sub_cancel, hfetch]
    omega
  · intro hcall
    have hst := step_stack hs hstep
    cases i with
    | call nnn =>
      rw [CallStack.entries_push hst, CallStack.mask_eq (by omega), UInt16.add_sub_cancel]
    | _ => cases hcall

/-- **Reachable machines.** However a host has driven a machine from its start,
the slots in use are the calls completed less the returns, the other slots are
zero, the addresses on the stack can be fetched from, the program counter is at
most 0x10FE, and a step that completes does not wrap. -/
theorem boot_reaches (random : RandomKey) (edges : Edges) (as : List Action) :
    let m := (boot random edges).actAll as
    let done := (boot random edges).completed as
    m.stack.depth ≤ 16 ∧
      (m.stack.depth : Int) = done.countP Instruction.isCall - done.countP Instruction.isRet ∧
      (∀ k (h : k < 16), m.stack.depth ≤ k → m.stack.slots[k] = 0) ∧
      (∀ k (h : k < 16), k < m.stack.depth → m.stack.slots[k].toNat ≤ 0xFFE) ∧
      m.pc.toNat ≤ 0x10FE ∧
      ∀ m', m.step = .ok m' → ∃ i, m.Spells i ∧ m.Exact m' i := by
  intro m done
  have h : m.Inv done := inv_actAll random edges as
  refine ⟨m.stack.depth_le, ?_, h.clean, ?_, h.pc, fun m' => exact_of_inv h⟩
  · have hc := h.count
    omega
  · intro k hk hlt
    exact h.low _ (List.mem_of_getElem? (m.stack.getElem?_entries k hk hlt))

/-- A machine that has just called a subroutine of one return. -/
def called : Machine :=
  (boot ⟨0, 0⟩ .clip).actAll [.event (.load [0x22, 0x02, 0x00, 0xEE]), .run 1]

theorem boot_reaches_called :
    called.step = .ok called.afterStep ∧
      ∃ i, called.Spells i ∧ called.Exact called.afterStep i := by
  have hok : Outcome.ofExcept called.step = .ok := by decide +kernel
  obtain ⟨m', hm'⟩ := Outcome.ofExcept_eq_ok_iff.mp hok
  rw [afterStep_of_ok hm']
  exact ⟨hm', (boot_reaches ⟨0, 0⟩ .clip _).2.2.2.2.2 m' hm'⟩

end Machine
end Chip8
