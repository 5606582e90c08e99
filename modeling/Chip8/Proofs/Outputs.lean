import Chip8.Proofs.Frames
import Chip8.Proofs.Peripherals

/-!
# What the machine never reads

The opcode, the two flags and the sound timer are there for the host to read.
`Machine.Agrees` relates two machines that are the same apart from them. A step
of one is a step of the other: the word it fetches overwrites the opcode, and
the flags and the sound timer are peripherals that no instruction looks at
(`Instruction.Alike`).

Results:
* `Agrees.step`: machines that agree fault alike, or step to machines that agree
  and have the same opcode.
* `Agrees.run`, `Agrees.runFrame`, `Agrees.runFrames`: so do runs and frames.
* `Agrees.turns`, `Agrees.frameTurns`: and the loops, whatever their counts hold.
* `outputs_unread`: all of it.
-/
namespace Chip8

/-- The machines are the same apart from the opcode, the two flags and the sound
timer. -/
def Machine.Agrees (m t : Machine) : Prop :=
  t = { m with
    opcode := t.opcode
    drawFlag := t.drawFlag
    soundFlag := t.soundFlag
    soundTimer := t.soundTimer }

/-- Two runs report the same and end at machines that agree. -/
structure Run.Agrees (r s : Run) : Prop where
  machine : r.machine.Agrees s.machine
  outcome : r.outcome = s.outcome
  executed : r.executed = s.executed

structure FrameRun.Agrees (r s : FrameRun) : Prop where
  toRun : r.toRun.Agrees s.toRun
  frames : r.frames = s.frames

structure Loop.Agrees (c d : Loop) : Prop where
  machine : c.machine.Agrees d.machine
  outcome : c.outcome = d.outcome
  executed : c.executed = d.executed

structure FrameLoop.Agrees (c d : FrameLoop) : Prop where
  toLoop : c.toLoop.Agrees d.toLoop
  frames : c.frames = d.frames

namespace Machine

/-! ## Steps -/

/-- The word a step fetches overwrites the opcode before anything could read it. -/
theorem step_opcode (m : Machine) (w : UInt16) : { m with opcode := w }.step = m.step := by
  rw [step_eq, step_eq]
  rfl

/-- The peripherals of `m`, with the outputs among them taken from `t`. -/
def outputsOf (m t : Machine) : Peripherals :=
  { m.peripherals with
    drawFlag := t.drawFlag
    soundFlag := t.soundFlag
    soundTimer := t.soundTimer }

theorem alike_outputsOf (m t : Machine) (i : Instruction) :
    i.Alike m.peripherals (m.outputsOf t) := by
  cases i <;> first | rfl | trivial

/-- What an instruction does to the delay timer and the keypad does not depend on
the outputs. -/
theorem drive_outputsOf (m t : Machine) (i : Instruction) :
    (m.drive (m.outputsOf t) i).delayTimer = (m.drive m.peripherals i).delayTimer ∧
      (m.drive (m.outputsOf t) i).keypad = (m.drive m.peripherals i).keypad := by
  cases i <;> exact ⟨rfl, rfl⟩

theorem Agrees.step_eq {m t : Machine} (h : m.Agrees t) :
    t.step = (m.attach (m.outputsOf t)).step := by
  have ht : t = { m.attach (m.outputsOf t) with opcode := t.opcode } := h
  rw [ht, step_opcode]
  rfl

theorem agrees_attach {m : Machine} {p : Peripherals} (hdelay : p.delayTimer = m.delayTimer)
    (hkeypad : p.keypad = m.keypad) : m.Agrees (m.attach p) := by
  simp only [Agrees, attach, hdelay, hkeypad]

theorem Agrees.step_of_error {m t : Machine} (h : m.Agrees t) {f : Fault}
    (hm : m.step = .error f) : t.step = .error f := by
  rw [h.step_eq, step_attach_of_error hm]

theorem Agrees.step_of_ok {m t m' : Machine} (h : m.Agrees t) (hm : m.step = .ok m') :
    ∃ t', t.step = .ok t' ∧ m'.Agrees t' ∧ m'.opcode = t'.opcode := by
  obtain ⟨i, hs, -⟩ := completes?_of_ok hm
  have hstep := step_attach hs (m.alike_outputsOf t i)
  rw [← h.step_eq, hm] at hstep
  obtain ⟨hdelay, hkeypad⟩ := m.drive_outputsOf t i
  have hp := peripherals_step hs hm
  refine ⟨m'.attach (m.drive (m.outputsOf t) i), hstep, agrees_attach ?_ ?_, rfl⟩
  · rw [hdelay, ← hp]
    rfl
  · rw [hkeypad, ← hp]
    rfl

/-- Machines that agree fault alike, or step to machines that agree and have
fetched the same word. -/
theorem Agrees.step {m t : Machine} (h : m.Agrees t) :
    (∃ f, m.step = .error f ∧ t.step = .error f) ∨
      ∃ m' t', m.step = .ok m' ∧ t.step = .ok t' ∧ m'.Agrees t' ∧ m'.opcode = t'.opcode := by
  cases hm : m.step with
  | error f => exact .inl ⟨f, rfl, h.step_of_error hm⟩
  | ok m' =>
    obtain ⟨t', ht⟩ := h.step_of_ok hm
    exact .inr ⟨m', t', rfl, ht⟩

theorem Agrees.tick {m t : Machine} (h : m.Agrees t) : m.tick.Agrees t.tick := by
  unfold Agrees
  rw [h]
  rfl

/-! ## Runs -/

/-- After one step the opcodes agree too, and stay so. -/
theorem Agrees.run {m t : Machine} (h : m.Agrees t) (n : Nat) :
    (m.run n).Agrees (t.run n) ∧
      (m.opcode = t.opcode ∨ 1 ≤ (m.run n).executed →
        (m.run n).machine.opcode = (t.run n).machine.opcode) := by
  induction n generalizing m t with
  | zero =>
    refine ⟨⟨h, rfl, rfl⟩, ?_⟩
    rintro (hopcode | hpos)
    · exact hopcode
    · exact absurd hpos (Nat.not_succ_le_zero 0)
  | succ n ih =>
    rcases h.step with ⟨f, hm, ht⟩ | ⟨m', t', hm, ht, h', hopcode'⟩
    · rw [run_of_error hm, run_of_error ht]
      refine ⟨⟨h, rfl, rfl⟩, ?_⟩
      rintro (hopcode | hpos)
      · exact hopcode
      · exact absurd hpos (Nat.not_succ_le_zero 0)
    · obtain ⟨hrun, hopcode⟩ := ih h'
      rw [run_of_ok hm, run_of_ok ht]
      exact ⟨⟨hrun.machine, hrun.outcome, congrArg (· + 1) hrun.executed⟩,
        fun _ => hopcode (.inl hopcode')⟩

theorem Agrees.runFrame {m t : Machine} (h : m.Agrees t) (k : Nat) :
    (m.runFrame k).Agrees (t.runFrame k) := by
  obtain ⟨hrun, -⟩ := h.run k
  exact ⟨hrun.machine.tick, hrun.outcome, hrun.executed⟩

theorem Agrees.runFrames {m t : Machine} (h : m.Agrees t) (count k : Nat) :
    (m.runFrames count k).Agrees (t.runFrames count k) := by
  induction count generalizing m t with
  | zero => exact ⟨⟨h, rfl, rfl⟩, rfl⟩
  | succ count ih =>
    have hframe := h.runFrame k
    cases hm : (m.runFrame k).outcome with
    | fault f =>
      rw [runFrames_of_fault hm, runFrames_of_fault (hframe.outcome ▸ hm)]
      exact ⟨hframe, rfl⟩
    | ok =>
      obtain ⟨⟨hmachine, houtcome, hexecuted⟩, hframes⟩ := ih hframe.machine
      rw [runFrames_of_ok hm, runFrames_of_ok (hframe.outcome ▸ hm)]
      simp only [FrameRun.after, hframe.executed]
      exact ⟨⟨hmachine, houtcome, by simp only [hexecuted]⟩, by simp only [hframes]⟩

/-! ## Loops -/

theorem Agrees.turns {m t : Machine} (h : m.Agrees t) (n : Nat) :
    (Loop.turns n (.start m)).Agrees (Loop.turns n (.start t)) := by
  obtain ⟨⟨hmachine, houtcome, hexecuted⟩, -⟩ := h.run n
  simp only [Loop.start, Loop.turns_eq]
  exact ⟨hmachine, houtcome, by rw [hexecuted]⟩

/-- A loop whose count is not zero has taken a step. -/
theorem Agrees.turns_opcode {m t : Machine} (h : m.Agrees t) {n : Nat}
    (hpos : (Loop.turns n (.start m)).executed ≠ 0) :
    (Loop.turns n (.start m)).machine.opcode = (Loop.turns n (.start t)).machine.opcode := by
  simp only [Loop.start, Loop.turns_eq, Int32.zero_add] at hpos ⊢
  refine (h.run n).2 (.inr (Nat.one_le_iff_ne_zero.mpr ?_))
  intro hzero
  rw [hzero] at hpos
  exact hpos rfl

theorem Agrees.frameTurns {m t : Machine} (h : m.Agrees t) (count k : Nat) :
    (FrameLoop.turns k count (.start m)).Agrees (FrameLoop.turns k count (.start t)) := by
  obtain ⟨⟨hmachine, houtcome, hexecuted⟩, hframes⟩ := h.runFrames count k
  simp only [FrameLoop.start, Loop.start, FrameLoop.turns_eq]
  exact ⟨⟨hmachine, houtcome, by rw [hexecuted]⟩, by rw [hframes]⟩

/-- **Outputs.** Machines that are the same apart from the opcode, the two flags
and the sound timer report the same of every run, frame and sequence of frames,
and end at machines that are again the same apart from these. After a run of at
least one completed step they have the same opcode as well. It is so for the
loops too, however far they count. -/
theorem outputs_unread {m t : Machine} (h : m.Agrees t) (n k count : Nat) :
    ((m.run n).Agrees (t.run n) ∧
      (1 ≤ (m.run n).executed → (m.run n).machine.opcode = (t.run n).machine.opcode)) ∧
    (m.runFrame k).Agrees (t.runFrame k) ∧
    (m.runFrames count k).Agrees (t.runFrames count k) ∧
    (let c := Loop.turns n (.start m)
     let d := Loop.turns n (.start t)
     c.Agrees d ∧ (c.executed ≠ 0 → c.machine.opcode = d.machine.opcode)) ∧
    (FrameLoop.turns k count (.start m)).Agrees (FrameLoop.turns k count (.start t)) := by
  obtain ⟨hrun, hopcode⟩ := h.run n
  exact ⟨⟨hrun, fun hpos => hopcode (.inr hpos)⟩, h.runFrame k, h.runFrames count k,
    ⟨h.turns n, h.turns_opcode⟩, h.frameTurns count k⟩

def muted : Machine :=
  { sounding with opcode := 0x1234, drawFlag := true, soundFlag := true, soundTimer := 0 }

theorem outputs_unread_muted :
    (sounding.run 2).machine.opcode = (muted.run 2).machine.opcode ∧
      (muted.runFrames 3 1).outcome = .fault .unknownInstruction ∧
      (muted.runFrames 3 1).frames = 2 := by
  have h : sounding.Agrees muted := rfl
  obtain ⟨⟨-, hopcode⟩, -, hframes, -, -⟩ := outputs_unread h 2 1 3
  have hfault : (sounding.runFrames 3 1).outcome = .fault .unknownInstruction := by decide +kernel
  have hcount : (sounding.runFrames 3 1).frames = 2 := by decide +kernel
  exact ⟨hopcode (by decide +kernel), hframes.toRun.outcome ▸ hfault, hframes.frames ▸ hcount⟩

end Machine
end Chip8
