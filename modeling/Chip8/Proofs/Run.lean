import Mathlib.Algebra.Group.Nat.Defs
import Chip8.Run

/-!
# Runs as repeated steps

`Machine.nth m i` is the machine after `i` steps, a step that faults counting
as one that changes nothing. `Halts` says where `n` steps from a machine halt:
after all of them, or at the first that faults.

A loop of steps has turns that all look alike. `Loop` is what it carries from
turn to turn: the machine, the outcome so far, on which a turn does nothing once
it is a fault, and a count in a signed 32-bit word.

Results:
* `run_halts`: a run ends where its steps halt.
* `run_add_of_ok`, `run_add_of_fault`: a run of `a + b` steps is a run of `a`
  and, unless that faulted, a run of `b` from where it ended.
* `turns_shows`: the loop carries what the run reports, up to 2^31 turns.
* `run_eq_iteration`: all of it.
-/
namespace Chip8

namespace Machine

/-! ## The halting point -/

def nth (m : Machine) : Nat → Machine
  | 0 => m
  | i + 1 => (m.nth i).afterStep

/-- Where `n` steps halt: after all `n`, or at the first fault. -/
inductive Halts (m : Machine) (n : Nat) : Run → Prop
  | completed (hall : ∀ i < n, ∃ m', (m.nth i).step = .ok m') : Halts m n ⟨m.nth n, .ok, n⟩
  | faulted (k : Nat) (f : Fault) (hk : k < n) (hf : (m.nth k).step = .error f)
      (hall : ∀ i < k, ∃ m', (m.nth i).step = .ok m') : Halts m n ⟨m.nth k, .fault f, k⟩

theorem afterStep_of_ok {m m' : Machine} (h : m.step = .ok m') : m.afterStep = m' := by
  simp only [afterStep, h]

theorem afterStep_of_error {m : Machine} {f : Fault} (h : m.step = .error f) :
    m.afterStep = m := by
  simp only [afterStep, h]

theorem nth_succ (m : Machine) (i : Nat) : m.nth (i + 1) = m.afterStep.nth i := by
  induction i with
  | zero => rfl
  | succ i ih => exact congrArg afterStep ih

/-! ## Runs from their first step -/

theorem runFrom_eq (e n : Nat) (m : Machine) :
    runFrom e n m = { m.run n with executed := e + (m.run n).executed } := by
  unfold run
  induction n generalizing e m with
  | zero => rfl
  | succ n ih =>
    simp only [runFrom]
    cases m.step with
    | error f => rfl
    | ok m' =>
      simp only
      rw [ih (e + 1), ih (0 + 1)]
      simp only [Run.mk.injEq, true_and]
      omega

theorem run_of_error {m : Machine} {f : Fault} (h : m.step = .error f) (n : Nat) :
    m.run (n + 1) = ⟨m, .fault f, 0⟩ := by
  simp only [run, runFrom, h]

theorem run_of_ok {m m' : Machine} (h : m.step = .ok m') (n : Nat) :
    m.run (n + 1) = { m'.run n with executed := (m'.run n).executed + 1 } := by
  simp only [run, runFrom, h]
  rw [runFrom_eq, Nat.add_comm]
  rfl

theorem halts_succ_of_ok {m m' : Machine} (h : m.step = .ok m') {n : Nat} {r : Run}
    (hr : m'.Halts n r) : m.Halts (n + 1) { r with executed := r.executed + 1 } := by
  have hnth : ∀ i, m.nth (i + 1) = m'.nth i := fun i => by rw [nth_succ, afterStep_of_ok h]
  have hok : ∀ k, (∀ i < k, ∃ t, (m'.nth i).step = .ok t) →
      ∀ i < k + 1, ∃ t, (m.nth i).step = .ok t := by
    intro k hall i hi
    cases i with
    | zero => exact ⟨m', h⟩
    | succ i => rw [hnth]; exact hall i (by omega)
  cases hr with
  | completed hall => rw [← hnth]; exact .completed (hok n hall)
  | faulted k f hk hf hall =>
    rw [← hnth] at hf ⊢
    exact .faulted (k + 1) f (by omega) hf (hok k hall)

theorem run_halts (m : Machine) (n : Nat) : m.Halts n (m.run n) := by
  induction n generalizing m with
  | zero => exact .completed (fun i hi => by omega)
  | succ n ih =>
    cases h : m.step with
    | error f =>
      rw [run_of_error h]
      exact .faulted 0 f (by omega) h (fun i hi => by omega)
    | ok m' =>
      rw [run_of_ok h]
      exact halts_succ_of_ok h (ih m')

/-! ## Consequences of halting -/

theorem Halts.executed_le {m : Machine} {n : Nat} {r : Run} (h : m.Halts n r) :
    r.executed ≤ n := by
  cases h with
  | completed => exact Nat.le_refl n
  | faulted k f hk => exact Nat.le_of_lt hk

theorem Halts.executed_eq_iff {m : Machine} {n : Nat} {r : Run} (h : m.Halts n r) :
    r.executed = n ↔ r.outcome = .ok := by
  cases h with
  | completed => simp
  | faulted k f hk => simp; omega

theorem Halts.machine_eq {m : Machine} {n : Nat} {r : Run} (h : m.Halts n r) :
    r.machine = m.nth r.executed := by
  cases h <;> rfl

/-- A run that faulted does not go on. -/
theorem run_add_of_fault {m : Machine} {f : Fault} (a b : Nat)
    (h : (m.run a).outcome = .fault f) : m.run (a + b) = m.run a := by
  induction a generalizing m with
  | zero => cases h
  | succ a ih =>
    rw [Nat.succ_add]
    cases hs : m.step with
    | error g => rw [run_of_error hs, run_of_error hs]
    | ok m' =>
      rw [run_of_ok hs] at h
      rw [run_of_ok hs, run_of_ok hs, ih h]

theorem run_add_of_ok {m : Machine} (a b : Nat) (h : (m.run a).outcome = .ok) :
    m.run (a + b) =
      { (m.run a).machine.run b with executed := a + ((m.run a).machine.run b).executed } := by
  induction a generalizing m with
  | zero => rw [Nat.zero_add]; simp only [Nat.zero_add]; rfl
  | succ a ih =>
    rw [Nat.succ_add]
    cases hs : m.step with
    | error g => rw [run_of_error hs] at h; cases h
    | ok m' =>
      rw [run_of_ok hs] at h ⊢
      rw [run_of_ok hs, ih h]
      simp only [Run.mk.injEq, true_and]
      omega

end Machine

/-! ## The loop -/

/-- What the loop carries from turn to turn. -/
structure Loop where
  machine : Machine
  outcome : Outcome
  executed : Int32

namespace Loop

def start (m : Machine) : Loop := ⟨m, .ok, 0⟩

/-- One turn: a step, unless an earlier one faulted. -/
def turn (c : Loop) : Loop :=
  match c.outcome with
  | .fault _ => c
  | .ok =>
    match c.machine.step with
    | .error f => { c with outcome := .fault f }
    | .ok m => { c with machine := m, executed := c.executed + 1 }

def turns : Nat → Loop → Loop
  | 0, c => c
  | n + 1, c => turns n c.turn

/-- The loop carries what the run reports, its count read as an integer. -/
def Shows (c : Loop) (r : Run) : Prop :=
  c.machine = r.machine ∧ c.outcome = r.outcome ∧ c.executed.toInt = r.executed

theorem turns_of_fault (n : Nat) {c : Loop} {f : Fault} (h : c.outcome = .fault f) :
    turns n c = c := by
  induction n with
  | zero => rfl
  | succ n ih =>
    have ht : c.turn = c := by simp only [turn, h]
    rw [turns, ht, ih]

theorem turns_eq (n : Nat) (m : Machine) (e : Int32) :
    turns n ⟨m, .ok, e⟩ =
      ⟨(m.run n).machine, (m.run n).outcome, e + Int32.ofNat (m.run n).executed⟩ := by
  induction n generalizing m e with
  | zero => simp [turns, Machine.run, Machine.runFrom]
  | succ n ih =>
    rw [turns]
    cases hs : m.step with
    | error f =>
      have ht : turn ⟨m, .ok, e⟩ = ⟨m, .fault f, e⟩ := by simp only [turn, hs]
      rw [ht, turns_of_fault n rfl, Machine.run_of_error hs]
      simp
    | ok m' =>
      have ht : turn ⟨m, .ok, e⟩ = ⟨m', .ok, e + 1⟩ := by simp only [turn, hs]
      rw [ht, ih, Machine.run_of_ok hs, Int32.ofNat_add, Int32.add_assoc, Int32.add_comm 1]
      rfl

/-- Up to 2^31 turns the count does not overflow. -/
theorem turns_shows (m : Machine) (n : Nat) (hn : n < 2 ^ 31) :
    (turns n (start m)).Shows (m.run n) := by
  have hle := (m.run_halts n).executed_le
  rw [start, turns_eq]
  refine ⟨rfl, rfl, ?_⟩
  rw [Int32.zero_add, Int32.toInt_ofNat_of_lt (by omega)]

end Loop

namespace Machine

/-- **Runs.** A run halts where its steps halt: the machine, the fault or none
and the count of the steps before it. The loop shows the same as long as its
count fits. A run that completed goes on as a second run would, and one that
faulted does not go on. -/
theorem run_eq_iteration (m : Machine) (n : Nat) :
    m.Halts n (m.run n) ∧
      ((m.run n).executed = n ↔ (m.run n).outcome = .ok) ∧
      (n < 2 ^ 31 → (Loop.turns n (.start m)).Shows (m.run n)) ∧
      (∀ k t u o e, m.run n = ⟨t, .ok, n⟩ → t.run k = ⟨u, o, e⟩ →
        m.run (n + k) = ⟨u, o, n + e⟩) ∧
      (∀ k f, (m.run n).outcome = .fault f → m.run (n + k) = m.run n) := by
  refine ⟨m.run_halts n, (m.run_halts n).executed_eq_iff, Loop.turns_shows m n, ?_, ?_⟩
  · intro k t u o e h1 h2
    rw [run_add_of_ok n k (by rw [h1]), h1]
    simp only [h2]
  · intro k f h
    exact run_add_of_fault n k h

/-- A program of one instruction, with no instruction behind it. -/
def stranded : Machine :=
  { blank ⟨0, 0⟩ .clip with memory := overwrite (Vector.replicate 4096 0) 0x200 [0x60, 0x01] }

theorem run_eq_iteration_stranded :
    (Loop.turns 1 (.start stranded)).Shows (stranded.run 1) ∧
      stranded.run (1 + 4) = ⟨(stranded.run 1).machine, .fault .unknownInstruction, 1 + 0⟩ ∧
      stranded.run (2 + 3) = stranded.run 2 := by
  have h1 : stranded.run 1 = ⟨(stranded.run 1).machine, .ok, 1⟩ := by
    have ho : (stranded.run 1).outcome = .ok := by decide +kernel
    have he := (stranded.run_halts 1).executed_eq_iff.mpr ho
    generalize stranded.run 1 = r at ho he
    cases r; cases ho; cases he; rfl
  have h2 : (stranded.run 1).machine.run 4 =
      ⟨(stranded.run 1).machine, .fault .unknownInstruction, 0⟩ :=
    run_of_error (Outcome.ofExcept_eq_fault_iff.mp (by decide +kernel)) 3
  exact ⟨(run_eq_iteration stranded 1).2.2.1 (by decide),
    (run_eq_iteration stranded 1).2.2.2.1 4 _ _ _ _ h1 h2,
    (run_eq_iteration stranded 2).2.2.2.2 3 .unknownInstruction (by decide +kernel)⟩

end Machine
end Chip8
