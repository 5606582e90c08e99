import Chip8.Proofs.Flow
import Chip8.Proofs.History

/-!
# Calls and returns

`Moves` lists what an event can do to the stack: leave it, pop it by a return or
push the address of a call. Inside a call the stack is `Inside`: the entries of
the caller, the address of the call, and above it whatever was pushed since.

Results:
* `moves`: there is no other way.
* `Inside.handle`: an event stays inside the call or is the return from it.
* `call_returns`: when the stack is first back at the caller's depth, a return
  has just gone to the instruction after the call, with the caller's stack.
-/
namespace Chip8

def Instruction.isCall : Instruction → Bool
  | .call _ => true
  | _ => false

def Instruction.isRet : Instruction → Bool
  | .ret => true
  | _ => false

namespace Machine

/-! ## What an event does to the stack -/

/-- What an event does to the stack. -/
inductive Moves (m : Machine) (e : Event) : Prop
  | kept (hst : (m.handle e).stack = m.stack)
      (hi : ∀ i, m.completes? e = some i → i.isCall = false ∧ i.isRet = false)
  | called (nnn : Fin 4096) (hi : m.completes? e = some (.call nnn)) (hpc : m.pc.toNat ≤ 0xFFE)
      (hpush : m.stack.push? m.pc = some (m.handle e).stack)
  | returned (a : UInt16) (he : e = .step) (hi : m.completes? e = some .ret) (hs : m.Spells .ret)
      (hstep : m.step = .ok (m.handle e)) (hpop : m.stack.pop? = some (a, (m.handle e).stack))
      (hpc : (m.handle e).pc = a + 2)

theorem moves (m : Machine) (e : Event) : m.Moves e := by
  rcases m.effect e with ⟨he, hi⟩ | ⟨hm, hi⟩ | ⟨i, w, hs, hi, hstep, -⟩
  · refine .kept (m.handle_host e he).1 ?_
    intro i h
    rw [hi] at h
    cases h
  · refine .kept (congrArg stack hm) ?_
    intro i h
    rw [hi] at h
    cases h
  · have hst := step_stack hs hstep
    cases i with
    | ret =>
      obtain ⟨a, hpop, hpc⟩ := hst
      exact .returned a rfl hi hs hstep hpop hpc
    | call nnn => exact .called nnn hi hs.pc_le hst
    | _ =>
      refine .kept hst ?_
      intro j hj
      cases hi.symm.trans hj
      exact ⟨rfl, rfl⟩

theorem clean_handle {m : Machine} (h : m.stack.Clean) (e : Event) :
    (m.handle e).stack.Clean := by
  rcases m.moves e with ⟨hst, -⟩ | ⟨nnn, -, -, hpush⟩ | ⟨a, -, -, -, -, hpop, -⟩
  · rw [hst]; exact h
  · exact CallStack.clean_push hpush h
  · exact CallStack.clean_pop hpop h

/-! ## Inside a call -/

/-- Inside a call at `a` that was made on top of the entries `base`. -/
structure Inside (base : List UInt16) (a : UInt16) (m : Machine) : Prop where
  clean : m.stack.Clean
  pushed : ∃ later, m.stack.entries = base ++ a :: later

theorem Inside.lt_depth {base : List UInt16} {a : UInt16} {m : Machine} (h : Inside base a m) :
    base.length < m.stack.depth := by
  obtain ⟨later, hl⟩ := h.pushed
  rw [← CallStack.length_entries, hl, List.length_append, List.length_cons]
  omega

theorem inside_push {m m' : Machine} (hclean : m.stack.Clean) (hpc : m.pc.toNat ≤ 0xFFE)
    (hpush : m.stack.push? m.pc = some m'.stack) : Inside m.stack.entries m.pc m' := by
  refine ⟨CallStack.clean_push hpush hclean, [], ?_⟩
  rw [CallStack.entries_push hpush, CallStack.mask_eq (by omega)]

/-- An event stays inside the call, or it is the return from it. -/
theorem Inside.handle {base : List UInt16} {a : UInt16} {m : Machine} (h : Inside base a m)
    (e : Event) : Inside base a (m.handle e) ∨
      (e = .step ∧ m.Spells .ret ∧ m.step = .ok (m.handle e) ∧ (m.handle e).pc = a + 2 ∧
        (m.handle e).stack.Clean ∧ (m.handle e).stack.entries = base) := by
  have hclean := clean_handle h.clean e
  obtain ⟨later, hl⟩ := h.pushed
  rcases m.moves e with ⟨hst, -⟩ | ⟨nnn, -, -, hpush⟩ | ⟨b, he, -, hs, hstep, hpop, hpc⟩
  · exact .inl ⟨hclean, later, by rw [hst, hl]⟩
  · refine .inl ⟨hclean, later ++ [m.pc &&& 0xFFF], ?_⟩
    rw [CallStack.entries_push hpush, hl, List.append_assoc, List.cons_append]
  · have hent := CallStack.entries_pop hpop
    rw [hl] at hent
    rcases List.eq_nil_or_concat later with rfl | ⟨later', x, rfl⟩
    · -- the entry popped is the one the call pushed
      obtain ⟨h1, h2⟩ := List.append_inj' hent rfl
      cases h2
      exact .inr ⟨he, hs, hstep, hpc, hclean, h1.symm⟩
    · rw [List.concat_eq_append, ← List.cons_append, ← List.append_assoc] at hent
      obtain ⟨h1, -⟩ := List.append_inj' hent rfl
      exact .inl ⟨hclean, later', h1.symm⟩

theorem Inside.handleAll {base : List UInt16} {a : UInt16} (es : List Event) {m : Machine}
    (h : Inside base a m)
    (hd : ∀ k ≤ es.length, (m.handleAll (es.take k)).stack.depth ≠ base.length) :
    Inside base a (m.handleAll es) := by
  induction es generalizing m with
  | nil => exact h
  | cons e es ih =>
    rcases h.handle e with hin | ⟨-, -, -, -, -, hent⟩
    · exact ih hin fun k hk => hd (k + 1) (Nat.succ_le_succ hk)
    · refine absurd ?_ (hd 1 (by simp))
      rw [← hent, CallStack.length_entries]
      rfl

/-! ## The return -/

/-- After `j` of the events the stack has for the first time `d` slots in use. -/
def FirstAt (m : Machine) (es : List Event) (d j : Nat) : Prop :=
  j ≤ es.length ∧ (m.handleAll (es.take j)).stack.depth = d ∧
    ∀ i < j, (m.handleAll (es.take i)).stack.depth ≠ d

theorem step_call {m : Machine} {nnn : Fin 4096} (hroom : m.stack.depth < 16)
    (hcall : m.Spells (.call nnn)) : ∃ m', m.step = .ok m' := by
  obtain ⟨w, -, -, hstep⟩ := step_eq_of_spells hcall
  cases hp : (m.fetched w).stack.push? ((m.fetched w).pc - 2) with
  | none =>
    have hfull : m.stack.depth = 16 := (CallStack.push?_eq_none_iff _ _).mp hp
    omega
  | some stack =>
    refine ⟨{ m.fetched w with stack, pc := UInt16.ofNat nnn }, ?_⟩
    rw [hstep]
    simp only [perform, hp]

/-- **Calls and returns match.** A call with a slot left completes. Whatever
happens then, if the stack comes back to the caller's depth, the first time it
does a return has just completed, at the instruction after the call and with the
caller's stack. -/
theorem call_returns {m : Machine} {nnn : Fin 4096} (hclean : m.stack.Clean)
    (hroom : m.stack.depth < 16) (hcall : m.Spells (.call nnn)) :
    m.step = .ok m.afterStep ∧
      ∀ es j, m.afterStep.FirstAt es m.stack.depth j →
        ∃ i, j = i + 1 ∧ es[i]? = some .step ∧
          (m.afterStep.handleAll (es.take i)).Spells .ret ∧
          (m.afterStep.handleAll (es.take i)).step =
            .ok (m.afterStep.handleAll (es.take j)) ∧
          (m.afterStep.handleAll (es.take j)).pc.toNat = m.pc.toNat + 2 ∧
          (m.afterStep.handleAll (es.take j)).stack = m.stack := by
  obtain ⟨m', hm'⟩ := step_call hroom hcall
  have hin := inside_push hclean hcall.pc_le (step_stack hcall hm')
  rw [afterStep_of_ok hm']
  refine ⟨hm', ?_⟩
  rintro es j ⟨hj, hback, hfirst⟩
  cases j with
  | zero =>
    -- right after the call the stack is deeper
    have hlt := hin.lt_depth
    rw [CallStack.length_entries] at hlt
    rw [List.take_zero] at hback
    exact absurd hback (Nat.ne_of_gt hlt)
  | succ i =>
    have hi : i < es.length := hj
    have htake : m'.handleAll (es.take (i + 1)) = (m'.handleAll (es.take i)).handle es[i] := by
      rw [List.take_succ_eq_append_getElem hi, handleAll_append]
      rfl
    have hbefore : Inside m.stack.entries m.pc (m'.handleAll (es.take i)) := by
      refine hin.handleAll _ ?_
      intro k hk
      rw [List.length_take] at hk
      rw [List.take_take, CallStack.length_entries]
      exact hfirst _ (by omega)
    rw [htake] at hback ⊢
    refine ⟨i, rfl, ?_⟩
    rcases hbefore.handle es[i] with hstill | ⟨he, hret, hstep, hpc, hcl, hent⟩
    · have hlt := hstill.lt_depth
      rw [CallStack.length_entries] at hlt
      omega
    · have ha := hcall.pc_le
      refine ⟨?_, hret, hstep, ?_, hcl.ext hclean hent⟩
      · rw [List.getElem?_eq_getElem hi, he]
      · rw [hpc, toNat_add_two (by omega)]

/-- A program that calls a subroutine that calls another. -/
def nested : Machine :=
  { blank ⟨0, 0⟩ .clip with
    memory := overwrite (Vector.replicate 4096 0) 0x200
      [0x22, 0x04, 0x00, 0x00, 0x22, 0x08, 0x00, 0xEE, 0x00, 0xEE] }

theorem call_returns_nested :
    nested.afterStep.FirstAt [.step, .tick, .step, .step] nested.stack.depth 4 ∧
      (nested.afterStep.handleAll [.step, .tick, .step, .step]).pc.toNat = 0x200 + 2 ∧
      (nested.afterStep.handleAll [.step, .tick, .step, .step]).stack = nested.stack := by
  have hcall : nested.Spells (.call 0x204) := by unfold Spells; decide +kernel
  have hfirst : nested.afterStep.FirstAt [.step, .tick, .step, .step] nested.stack.depth 4 := by
    unfold FirstAt
    decide +kernel
  obtain ⟨i, hi, -, -, -, hpc, hst⟩ :=
    (call_returns CallStack.clean_empty (by decide) hcall).2 _ _ hfirst
  exact ⟨hfirst, hpc, hst⟩

end Machine
end Chip8
