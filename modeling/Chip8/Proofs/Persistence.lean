import Chip8.Proofs.Frames
import Chip8.Proofs.OpenBus
import Chip8.Proofs.Peripherals

/-!
# Faults change nothing and stay

A step that faults leaves every part of the machine as it was, so the next step
is the same step. The host can do to the peripherals what it likes in between,
and the clock period of a frame that faulted is no exception: how a step ends
does not depend on them.

Results:
* `stepOn_of_error`: a step run in full is taken back as a whole.
* `stuckOn_of_error`: a machine whose step faults is stuck on that fault.
* `Halts.stuckOn`, `FramesHalt.stuckOn`: so is a machine that a run or a sequence
  of frames stopped on.
* `faults_stay`: all of it.
-/
namespace Chip8
namespace Machine

/-- Every step of the machine reports the fault and changes nothing, whatever the
host has done to the peripherals. -/
def StuckOn (m : Machine) (f : Fault) : Prop :=
  ∀ es : List Event, (∀ e ∈ es, e.isPeripheral = true) →
    let t := m.handleAll es
    t.step = .error f ∧ t.afterStep = t ∧ t.pc = m.pc ∧
      ∀ bus, t.stepOn bus = ⟨t.draft, .fault f⟩

/-! ## Steps -/

theorem stepOn_of_error {m : Machine} {f : Fault} (h : m.step = .error f) (bus : Bus) :
    m.stepOn bus = ⟨m.draft, .fault f⟩ := by
  rw [stepOn_eq, h]
  rfl

theorem handleAll_eq_attach (m : Machine) {es : List Event}
    (hes : ∀ e ∈ es, e.isPeripheral = true) : ∃ p, m.handleAll es = m.attach p := by
  induction es generalizing m with
  | nil => exact ⟨m.peripherals, rfl⟩
  | cons e es ih =>
    have he : m.handle e = m.attach (m.peripherals.handle e) :=
      m.handle_eq_change (hes e List.mem_cons_self)
    obtain ⟨p, hp⟩ := ih (m.handle e) fun d hd => hes d (List.mem_cons_of_mem e hd)
    rw [he] at hp
    exact ⟨p, (congrArg (handleAll · es) he).trans hp⟩

theorem stuckOn_of_error {m : Machine} {f : Fault} (h : m.step = .error f) : m.StuckOn f := by
  intro es hes
  obtain ⟨p, hp⟩ := m.handleAll_eq_attach hes
  have hstep : (m.attach p).step = .error f := step_attach_of_error h p
  simp only [hp]
  exact ⟨hstep, afterStep_of_error hstep, rfl, stepOn_of_error hstep⟩

/-! ## Runs and frames -/

theorem Halts.step_of_fault {m : Machine} {n : Nat} {r : Run} (h : m.Halts n r) {f : Fault}
    (ho : r.outcome = .fault f) : r.machine.step = .error f := by
  cases h with
  | completed => cases ho
  | faulted k g hk hf => cases ho; exact hf

theorem Halts.stuckOn {m : Machine} {n : Nat} {r : Run} (h : m.Halts n r) {f : Fault}
    (ho : r.outcome = .fault f) : r.machine.StuckOn f := stuckOn_of_error (h.step_of_fault ho)

/-- A clock period does not free a machine whose step faults. -/
theorem stuckOn_tick {m : Machine} {f : Fault} (h : m.step = .error f) : m.tick.StuckOn f :=
  stuckOn_of_error (step_handle_of_error h (e := .tick) rfl)

theorem FramesHalt.stuckOn {m : Machine} {count k : Nat} {r : FrameRun}
    (h : m.FramesHalt count k r) {f : Fault} (ho : r.outcome = .fault f) :
    r.machine.StuckOn f := by
  cases h with
  | completed => cases ho
  | faulted i e g hi hall hf =>
    cases ho
    exact stuckOn_tick (hf.step_of_fault rfl)

/-- **Faults.** A step that faults, run in full, leaves the machine as it was. A
run, a frame or a sequence of frames that faults leaves a machine that is stuck
on the fault it reports. -/
theorem faults_stay (m : Machine) :
    (∀ bus f, (m.stepOn bus).outcome = .fault f →
      (m.stepOn bus).draft = m.draft ∧ m.afterStep = m) ∧
    (∀ n f, (m.run n).outcome = .fault f → (m.run n).machine.StuckOn f) ∧
    (∀ k f, (m.runFrame k).outcome = .fault f → (m.runFrame k).machine.StuckOn f) ∧
    (∀ count k f, (m.runFrames count k).outcome = .fault f →
      (m.runFrames count k).machine.StuckOn f) := by
  refine ⟨?_, ?_, ?_, ?_⟩
  · intro bus f h
    rw [outcome_stepOn, Outcome.ofExcept_eq_fault_iff] at h
    rw [stepOn_of_error h]
    exact ⟨rfl, afterStep_of_error h⟩
  · intro n f h
    exact (m.run_halts n).stuckOn h
  · intro k f h
    exact stuckOn_tick ((m.run_halts k).step_of_fault h)
  · intro count k f h
    exact (m.runFrames_halts count k).stuckOn h

theorem faults_stay_stranded :
    ((stranded.afterStep.stepOn .zero).outcome = .fault .unknownInstruction ∧
      (stranded.afterStep.stepOn .zero).draft = stranded.afterStep.draft) ∧
    ((stranded.run 5).outcome = .fault .unknownInstruction ∧
      (stranded.run 5).machine.StuckOn .unknownInstruction) ∧
    ((stranded.runFrame 5).outcome = .fault .unknownInstruction ∧
      (stranded.runFrame 5).machine.StuckOn .unknownInstruction) ∧
    ((stranded.runFrames 3 5).outcome = .fault .unknownInstruction ∧
      (stranded.runFrames 3 5).machine.StuckOn .unknownInstruction) := by
  have hstep : (stranded.afterStep.stepOn .zero).outcome = .fault .unknownInstruction := by
    decide +kernel
  have hrun : (stranded.run 5).outcome = .fault .unknownInstruction := by decide +kernel
  have hframe : (stranded.runFrame 5).outcome = .fault .unknownInstruction := by decide +kernel
  have hframes : (stranded.runFrames 3 5).outcome = .fault .unknownInstruction := by decide +kernel
  obtain ⟨hback, -, -, -⟩ := faults_stay stranded.afterStep
  obtain ⟨-, hstays, hstaysFrame, hstaysFrames⟩ := faults_stay stranded
  exact ⟨⟨hstep, (hback _ _ hstep).1⟩, ⟨hrun, hstays _ _ hrun⟩, ⟨hframe, hstaysFrame _ _ hframe⟩,
    hframes, hstaysFrames _ _ _ hframes⟩

end Machine
end Chip8
