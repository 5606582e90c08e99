import Chip8.Proofs.History
import Chip8.Proofs.Verdict

/-!
# Where the machine meets its host

Timers, keys and the two flags are the machine's `Peripherals`: the host writes
nothing else with a clock period, a key or an acknowledgement, and few
instructions look at them. An instruction that finds what it looks at unchanged
(`Instruction.Alike`) does the same whatever the rest of the peripherals hold,
and what it does to them is `Machine.drive`.

`Event.conflicts` lists the instructions that an event of the host gets in the
way of. All others come out the same before and after it.

Results:
* `perform_attach`, `step_attach`: other peripherals pass through an instruction.
* `outcome_attach`: how a step ends does not depend on the peripherals.
* `step_change`, `run_change`: a change of the peripherals can be moved past a
  step or a run of instructions that it `Passes`.
* `step_handle`, `run_handle`: so can an event, past instructions that it does
  not conflict with.
* `handle_commutes`: all of it.
-/
namespace Chip8

/-- The parts of the machine that it shares with its host. -/
structure Peripherals where
  drawFlag : Bool
  delayTimer : UInt8
  soundTimer : UInt8
  soundFlag : Bool
  keypad : Keypad

/-- Two sets of peripherals look alike to an instruction. -/
def Instruction.Alike (p q : Peripherals) : Instruction → Prop
  | .getDelay _ => p.delayTimer = q.delayTimer
  | .skipPressed _ | .skipReleased _ | .waitKey _ => p.keypad = q.keypad
  | _ => True

namespace Machine

def peripherals (m : Machine) : Peripherals :=
  ⟨m.drawFlag, m.delayTimer, m.soundTimer, m.soundFlag, m.keypad⟩

/-- The machine with other peripherals. -/
def attach (m : Machine) (p : Peripherals) : Machine :=
  { m with
    drawFlag := p.drawFlag
    delayTimer := p.delayTimer
    soundTimer := p.soundTimer
    soundFlag := p.soundFlag
    keypad := p.keypad }

/-- What an instruction does to the peripherals. -/
def drive (m : Machine) (p : Peripherals) : Instruction → Peripherals
  | .clear | .draw .. => { p with drawFlag := true }
  | .setDelay x => { p with delayTimer := m.reg x }
  | .setSound x => { p with soundTimer := m.reg x }
  | _ => p

/-! ## Instructions -/

theorem skipIf_attach (m : Machine) (p : Peripherals) (c : Bool) :
    (m.attach p).skipIf c = (m.skipIf c).attach p := by
  cases c <;> rfl

theorem combine_attach (m : Machine) (p : Peripherals) (op : Arith) (x y : Fin 16) :
    (m.attach p).combine op x y = (m.combine op x y).attach p := by
  cases op <;> rfl

theorem keyDown_attach {m : Machine} {p : Peripherals} (h : m.keypad = p.keypad) (x : Fin 16) :
    (m.attach p).keyDown x = m.keyDown x := by
  simp only [keyDown, attach, h]
  rfl

theorem perform_attach {m : Machine} {p : Peripherals} {i : Instruction}
    (h : i.Alike m.peripherals p) :
    (m.attach p).perform i = (m.perform i).map fun t => t.attach (m.drive p i) := by
  cases i with
  | ret | call | draw | decimal | store | load =>
    -- what decides is not among the peripherals
    simp only [perform, attach, reg]
    split <;> rfl
  | skipEqByte | skipNeByte | skipEqReg | skipNeReg => exact congrArg _ (m.skipIf_attach p _)
  | arith op x y => exact congrArg _ (m.combine_attach p op x y)
  | skipPressed x | skipReleased x =>
    simp only [perform]
    rw [keyDown_attach h, skipIf_attach]
    rfl
  | waitKey x =>
    have hk : (m.attach p).keypad.highest? = m.keypad.highest? := congrArg _ h.symm
    simp only [perform, hk]
    split <;> rfl
  | getDelay x =>
    have hd : (m.attach p).delayTimer = m.delayTimer := h.symm
    simp only [perform, hd]
    rfl
  | _ => rfl

/-! ## Steps -/

theorem step_attach {m : Machine} {p : Peripherals} {i : Instruction} (hs : m.Spells i)
    (h : i.Alike m.peripherals p) :
    (m.attach p).step = m.step.map fun t => t.attach (m.drive p i) := by
  obtain ⟨w, -, hw, hstep⟩ := step_eq_of_spells hs
  have hs' : (m.attach p).Spells i := hs
  obtain ⟨w', -, hw', hstep'⟩ := step_eq_of_spells hs'
  cases UInt16.toNat_inj.mp (hw'.trans hw.symm)
  have hd : (m.fetched w).drive p i = m.drive p i := by cases i <;> rfl
  rw [hstep, hstep', ← hd]
  exact perform_attach (m := m.fetched w) h

theorem outcome_attach (m : Machine) (p : Peripherals) :
    Outcome.ofExcept (m.attach p).step = Outcome.ofExcept m.step := by
  rw [outcome_step, outcome_step]
  rfl

theorem step_attach_of_error {m : Machine} {f : Fault} (h : m.step = .error f) (p : Peripherals) :
    (m.attach p).step = .error f := by
  rw [← Outcome.ofExcept_eq_fault_iff, outcome_attach, h]
  rfl

/-- The peripherals after a completed step. -/
theorem peripherals_step {m t : Machine} {i : Instruction} (hs : m.Spells i)
    (h : m.step = .ok t) : t.peripherals = m.drive m.peripherals i := by
  have halike : i.Alike m.peripherals m.peripherals := by cases i <;> first | rfl | trivial
  have hstep : m.step = m.step.map fun t => t.attach (m.drive m.peripherals i) :=
    step_attach hs halike
  rw [h] at hstep
  exact congrArg peripherals (Except.ok.inj hstep)

/-! ## Changes of the peripherals -/

/-- The machine with its peripherals changed. -/
def change (m : Machine) (f : Peripherals → Peripherals) : Machine := m.attach (f m.peripherals)

/-- A change can be moved past an instruction: what the instruction looks at is
as before, and the two write different parts. -/
structure Passes (f : Peripherals → Peripherals) (i : Instruction) : Prop where
  alike : ∀ p, i.Alike p (f p)
  drive : ∀ (m : Machine) p, m.drive (f p) i = f (m.drive p i)

theorem step_change_of_error {m : Machine} {e : Fault} (h : m.step = .error e)
    (f : Peripherals → Peripherals) : (m.change f).step = .error e :=
  step_attach_of_error h _

theorem step_change {m : Machine} {f : Peripherals → Peripherals}
    (hf : ∀ i, m.Spells i → Passes f i) : (m.change f).step = m.step.map fun t => t.change f := by
  cases h : m.step with
  | error e => exact step_change_of_error h f
  | ok t =>
    obtain ⟨i, hs, -⟩ := completes?_of_ok h
    obtain ⟨halike, hdrive⟩ := hf i hs
    rw [change, step_attach hs (halike _), h, hdrive, ← peripherals_step hs h]
    rfl

theorem log_runEvents_of_ok {m t : Machine} (h : m.step = .ok t) (n : Nat) :
    ∃ i, m.Spells i ∧ m.log (m.runEvents (n + 1)) = i :: t.log (t.runEvents n) := by
  obtain ⟨i, hs, hi⟩ := completes?_of_ok h
  refine ⟨i, hs, ?_⟩
  have ht : m.handle .step = t := afterStep_of_ok h
  rw [runEvents, run_of_ok h, List.replicate_succ, log, hi, ht]
  rfl

/-- A change can be moved past a run: past the steps that complete by what they
are, and past the one that faults whatever it is. -/
theorem run_change {m : Machine} {f : Peripherals → Peripherals} {n : Nat}
    (hf : ∀ i ∈ m.log (m.runEvents n), Passes f i) :
    (m.change f).run n = { m.run n with machine := (m.run n).machine.change f } := by
  induction n generalizing m with
  | zero => rfl
  | succ n ih =>
    cases h : m.step with
    | error e => rw [run_of_error h, run_of_error (step_change_of_error h f)]
    | ok t =>
      obtain ⟨i, hs, hlog⟩ := log_runEvents_of_ok h n
      rw [hlog] at hf
      have hstep : (m.change f).step = .ok (t.change f) := by
        rw [step_change, h]
        · rfl
        · intro j hj
          rw [hj.unique hs]
          exact hf i List.mem_cons_self
      rw [run_of_ok h, run_of_ok hstep, ih fun j hj => hf j (List.mem_cons_of_mem i hj)]

end Machine

/-! ## Events -/

/-- The events by which the host touches nothing but the peripherals. -/
def Event.isPeripheral : Event → Bool
  | .tick | .press _ | .release _ | .setKeypad _ | .clearDrawFlag | .clearSoundFlag => true
  | .step | .randomByte | .load _ => false

/-- The instructions that look at what an event of the host writes, or write it
too. -/
def Event.conflicts : Event → Instruction → Bool
  | .tick, .getDelay _ | .tick, .setDelay _ | .tick, .setSound _ => true
  | .press _, .skipPressed _ | .press _, .skipReleased _ | .press _, .waitKey _ => true
  | .release _, .skipPressed _ | .release _, .skipReleased _ | .release _, .waitKey _ => true
  | .setKeypad _, .skipPressed _ | .setKeypad _, .skipReleased _ | .setKeypad _, .waitKey _ => true
  | .clearDrawFlag, .clear | .clearDrawFlag, .draw .. => true
  | _, _ => false

/-- What an event does to the peripherals. A key that there is not changes none. -/
def Peripherals.handle (p : Peripherals) : Event → Peripherals
  | .tick => { p with
      delayTimer := Machine.countDown p.delayTimer
      soundTimer := Machine.countDown p.soundTimer
      soundFlag := p.soundFlag || p.soundTimer == 1 }
  | .press key =>
    match Key.ofInt key with
    | .error _ => p
    | .ok k => { p with keypad := p.keypad.set k true }
  | .release key =>
    match Key.ofInt key with
    | .error _ => p
    | .ok k => { p with keypad := p.keypad.set k false }
  | .setKeypad keys =>
    match Key.ofInts keys with
    | .error _ => p
    | .ok ks => { p with keypad := Keypad.ofKeys ks }
  | .clearDrawFlag => { p with drawFlag := false }
  | .clearSoundFlag => { p with soundFlag := false }
  | .step | .randomByte | .load _ => p

namespace Machine

theorem handle_eq_change (m : Machine) {e : Event} (he : e.isPeripheral = true) :
    m.handle e = m.change (Peripherals.handle · e) := by
  cases e with
  | step | randomByte | load image => cases he
  | press key =>
    simp only [handle, pressKey, Peripherals.handle]
    cases Key.ofInt key <;> rfl
  | release key =>
    simp only [handle, releaseKey, Peripherals.handle]
    cases Key.ofInt key <;> rfl
  | setKeypad keys =>
    simp only [handle, Machine.setKeypad, Peripherals.handle]
    cases Key.ofInts keys <;> rfl
  | tick | clearDrawFlag | clearSoundFlag => rfl

/-- What an instruction looks at is as before after an event it does not conflict
with. -/
theorem alike_handle {e : Event} {i : Instruction} (hc : e.conflicts i = false)
    (p : Peripherals) : i.Alike p (p.handle e) := by
  cases i with
  | getDelay x =>
    cases e with
    | tick => cases hc
    | press key | release key | setKeypad keys =>
      simp only [Instruction.Alike, Peripherals.handle]
      split <;> rfl
    | _ => rfl
  | skipPressed x | skipReleased x | waitKey x =>
    cases e with
    | press key | release key | setKeypad keys => cases hc
    | _ => rfl
  | _ => trivial

/-- An event and an instruction that do not conflict write different parts. -/
theorem drive_handle (m : Machine) {e : Event} {i : Instruction} (hc : e.conflicts i = false)
    (p : Peripherals) : m.drive (p.handle e) i = (m.drive p i).handle e := by
  cases i with
  | clear | draw x y n =>
    cases e with
    | clearDrawFlag => cases hc
    | press key | release key | setKeypad keys =>
      simp only [drive, Peripherals.handle]
      split <;> rfl
    | _ => rfl
  | setDelay x | setSound x =>
    cases e with
    | tick => cases hc
    | press key | release key | setKeypad keys =>
      simp only [drive, Peripherals.handle]
      split <;> rfl
    | _ => rfl
  | _ => rfl

theorem passes_handle {e : Event} {i : Instruction} (hc : e.conflicts i = false) :
    Passes (Peripherals.handle · e) i :=
  ⟨alike_handle hc, fun m => m.drive_handle hc⟩

theorem outcome_handle (m : Machine) {e : Event} (he : e.isPeripheral = true) :
    Outcome.ofExcept (m.handle e).step = Outcome.ofExcept m.step := by
  rw [m.handle_eq_change he, change, outcome_attach]

theorem step_handle_of_error {m : Machine} {f : Fault} (h : m.step = .error f) {e : Event}
    (he : e.isPeripheral = true) : (m.handle e).step = .error f := by
  rw [m.handle_eq_change he, step_change_of_error h]

/-- An event can be moved past a step. -/
theorem step_handle (m : Machine) {e : Event} (he : e.isPeripheral = true)
    (hc : ∀ i, m.Spells i → e.conflicts i = false) :
    (m.handle e).step = m.step.map fun t => t.handle e := by
  rw [m.handle_eq_change he, step_change fun i hi => passes_handle (hc i hi)]
  congr 1
  funext t
  exact (t.handle_eq_change he).symm

/-- An event can be moved past a run. -/
theorem run_handle (m : Machine) {e : Event} (he : e.isPeripheral = true) (n : Nat)
    (hc : ∀ i ∈ m.log (m.runEvents n), e.conflicts i = false) :
    (m.handle e).run n = { m.run n with machine := (m.run n).machine.handle e } := by
  rw [m.handle_eq_change he, run_change fun i hi => passes_handle (hc i hi),
    (m.run n).machine.handle_eq_change he]

/-- **Independence.** A step ends the same way before and after an event of the
host that touches only the peripherals. If it is no instruction that the event
conflicts with, the order of the two does not matter, and neither does the order
of the event and a run that completes no such instruction. -/
theorem handle_commutes (m : Machine) (e : Event) (he : e.isPeripheral = true) :
    Outcome.ofExcept (m.handle e).step = Outcome.ofExcept m.step ∧
      ((∀ i, m.Spells i → e.conflicts i = false) →
        (m.handle e).afterStep = m.afterStep.handle e) ∧
      ∀ n, (∀ i ∈ m.log (m.runEvents n), e.conflicts i = false) →
        (m.handle e).run n = { m.run n with machine := (m.run n).machine.handle e } := by
  refine ⟨m.outcome_handle he, ?_, fun n => m.run_handle he n⟩
  intro hc
  have hstep := m.step_handle he hc
  cases h : m.step with
  | error f =>
    rw [h] at hstep
    rw [afterStep_of_error h, afterStep_of_error hstep]
  | ok t =>
    rw [h] at hstep
    rw [afterStep_of_ok h, afterStep_of_ok hstep]

/-- A program that sets a register and clears the display, while a tone is about to end. -/
def sounding : Machine :=
  { blank ⟨0, 0⟩ .clip with
    memory := overwrite (Vector.replicate 4096 0) 0x200 [0x61, 0x05, 0x00, 0xE0]
    soundTimer := 1 }

theorem handle_commutes_sounding :
    (sounding.handle .tick).afterStep = sounding.afterStep.handle .tick ∧
      (sounding.handle .tick).run 3 =
        { sounding.run 3 with machine := (sounding.run 3).machine.handle .tick } := by
  have hset : sounding.Spells (.setByte 1 5) := by unfold Spells; decide +kernel
  have hlog : sounding.log (sounding.runEvents 3) = [.setByte 1 5, .clear] := by decide +kernel
  obtain ⟨-, hstep, hrun⟩ := handle_commutes sounding .tick rfl
  refine ⟨hstep ?_, hrun 3 ?_⟩
  · intro i hi
    rw [hi.unique hset]
    rfl
  · rw [hlog]
    decide

end Machine
end Chip8
