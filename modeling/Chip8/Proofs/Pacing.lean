import Chip8.Proofs.Frames
import Chip8.Proofs.Peripherals

/-!
# Pacing

The number of steps in a frame decides between which instructions the clock
periods fall. A program that neither reads nor sets a timer cannot tell. Its
frames are one run of all their steps, and the clock periods, which the run does
not have, are seen in the timers and the sound flag alone.

The two timers and the sound flag are the clock of a machine, and
`Machine.withClock` puts the clock of another machine into their place. Clock
periods are counted apart from the run, on a machine that takes no steps
(`Machine.ticks`).

Results:
* `run_withClock`: a run that leaves the timers alone carries any clock along
  unchanged.
* `runFrames_withClock`: frames of such a run are the run with the clock moved
  on.
* `runFrames_eq_run`: so two pacings of the same number of steps differ in the
  clock only.
-/
namespace Chip8

/-- The instructions that read or set a timer: FX07, FX15 and FX18. -/
def Instruction.isTimed : Instruction → Bool
  | .getDelay _ | .setDelay _ | .setSound _ => true
  | _ => false

/-- The clock periods in a sequence of frames. The frame that faulted has one too. -/
def FrameRun.periods (r : FrameRun) : Nat :=
  match r.outcome with
  | .ok => r.frames
  | .fault _ => r.frames + 1

theorem FrameRun.periods_after (e : Nat) (r : FrameRun) : (r.after e 1).periods = r.periods + 1 := by
  unfold periods after
  cases r.outcome <;> simp only <;> omega

/-- The peripherals with the timers and the sound flag of a machine. -/
def Peripherals.withClock (p : Peripherals) (c : Machine) : Peripherals :=
  { p with delayTimer := c.delayTimer, soundTimer := c.soundTimer, soundFlag := c.soundFlag }

namespace Machine

/-- The machine with the timers and the sound flag of another one. -/
def withClock (m c : Machine) : Machine :=
  { m with delayTimer := c.delayTimer, soundTimer := c.soundTimer, soundFlag := c.soundFlag }

/-- The machine after `n` clock periods. -/
def ticks (m : Machine) : Nat → Machine
  | 0 => m
  | n + 1 => m.tick.ticks n

/-- No instruction that reads or sets a timer is executed in a run of `n` steps. -/
def Untimed (m : Machine) (n : Nat) : Prop := ∀ i ∈ m.log (m.runEvents n), i.isTimed = false

/-! ## What a run executes -/

theorem runEvents_add_of_fault {m : Machine} {a : Nat} {f : Fault}
    (h : (m.run a).outcome = .fault f) (b : Nat) : m.runEvents (a + b) = m.runEvents a := by
  unfold runEvents
  rw [run_add_of_fault a b h]

theorem log_runEvents_add {m : Machine} {a : Nat} (h : (m.run a).outcome = .ok) (b : Nat) :
    m.log (m.runEvents (a + b)) =
      m.log (m.runEvents a) ++ (m.run a).machine.log ((m.run a).machine.runEvents b) := by
  have ha : (m.run a).executed = a := (m.run_halts a).executed_eq_iff.mpr h
  have hsplit : m.runEvents (a + b) = m.runEvents a ++ (m.run a).machine.runEvents b := by
    unfold runEvents
    rw [run_add_of_ok a b h, ha, List.replicate_append_replicate]
  rw [hsplit, log_append, handleAll_run]

theorem Untimed.left {m : Machine} {a b : Nat} (h : m.Untimed (a + b)) : m.Untimed a := by
  intro i hi
  apply h i
  cases ho : (m.run a).outcome with
  | ok =>
    rw [log_runEvents_add ho]
    exact List.mem_append_left _ hi
  | fault f =>
    rw [runEvents_add_of_fault ho]
    exact hi

theorem Untimed.right {m : Machine} {a b : Nat} (h : m.Untimed (a + b))
    (ho : (m.run a).outcome = .ok) : (m.run a).machine.Untimed b := by
  intro i hi
  apply h i
  rw [log_runEvents_add ho]
  exact List.mem_append_right _ hi

/-! ## Another clock -/

theorem withClock_eq_change (m c : Machine) :
    m.withClock c = m.change (Peripherals.withClock · c) := rfl

/-- An instruction that leaves the timers alone does not see another clock. -/
theorem passes_withClock {i : Instruction} (hi : i.isTimed = false) (c : Machine) :
    Passes (Peripherals.withClock · c) i := by
  constructor
  · intro p
    cases i with
    | getDelay x => cases hi
    | skipPressed x | skipReleased x | waitKey x => rfl
    | _ => trivial
  · intro m p
    cases i with
    | setDelay x | setSound x => cases hi
    | _ => rfl

theorem run_withClock {m : Machine} {n : Nat} (h : m.Untimed n) (c : Machine) :
    (m.withClock c).run n = { m.run n with machine := (m.run n).machine.withClock c } := by
  rw [withClock_eq_change, run_change fun i hi => passes_withClock (h i hi) c]
  rfl

/-! ## Frames -/

/-- The clock is moved on by one period after each frame, and the run goes on
from where it was. -/
theorem runFrames_withClock (count k : Nat) {m : Machine} (h : m.Untimed (count * k))
    (c : Machine) :
    let r := (m.withClock c).runFrames count k
    let s := m.run (count * k)
    r.outcome = s.outcome ∧ r.executed = s.executed ∧
      r.machine = s.machine.withClock (c.ticks r.periods) := by
  induction count generalizing m c with
  | zero =>
    rw [Nat.zero_mul]
    exact ⟨rfl, rfl, rfl⟩
  | succ count ih =>
    have hmul : (count + 1) * k = k + count * k := by rw [Nat.succ_mul, Nat.add_comm]
    rw [hmul] at h ⊢
    have hframe : (m.withClock c).runFrame k =
        { m.run k with machine := (m.run k).machine.withClock c.tick } := by
      unfold runFrame
      rw [run_withClock h.left c]
      rfl
    cases ho : (m.run k).outcome with
    | fault f =>
      rw [runFrames_of_fault (by rw [hframe]; exact ho), run_add_of_fault k _ ho, hframe]
      refine ⟨rfl, rfl, ?_⟩
      simp only [FrameRun.periods, ho]
      rfl
    | ok =>
      have hk : (m.run k).executed = k := (m.run_halts k).executed_eq_iff.mpr ho
      obtain ⟨h1, h2, h3⟩ := ih (h.right ho) c.tick
      rw [runFrames_of_ok (by rw [hframe]; exact ho), run_add_of_ok k _ ho, hframe, hk]
      intro r s
      refine ⟨h1, congrArg (k + ·) h2, ?_⟩
      have hr : r.periods = _ + 1 := FrameRun.periods_after k _
      rw [hr]
      exact h3

/-- **Pacing.** If no instruction that reads or sets a timer is executed, a
sequence of frames ends as the run of all its steps does and counts the same
steps. The machines agree on all but the timers and the sound flag, which are
those of the first machine after the clock periods alone. The loops show these
reports as long as the count fits. So two pacings of the same number of steps
report the same and agree on all but the timers and the sound flag. -/
theorem runFrames_eq_run {m : Machine} {count k : Nat} (h : m.Untimed (count * k)) :
    let r := m.runFrames count k
    let s := m.run (count * k)
    let c := m.ticks r.periods
    (r.outcome = s.outcome ∧ r.executed = s.executed ∧
      r.machine = { s.machine with
        delayTimer := c.delayTimer, soundTimer := c.soundTimer, soundFlag := c.soundFlag }) ∧
    (count * k < 2 ^ 31 →
      (FrameLoop.turns k count (.start m)).toLoop.Shows r.toRun ∧
        (Loop.turns (count * k) (.start m)).Shows s) ∧
    ∀ count' k', count' * k' = count * k →
      let r' := m.runFrames count' k'
      r'.outcome = r.outcome ∧ r'.executed = r.executed ∧
        r'.machine = { r.machine with
          delayTimer := r'.machine.delayTimer
          soundTimer := r'.machine.soundTimer
          soundFlag := r'.machine.soundFlag } := by
  obtain ⟨h1, h2, h3⟩ := runFrames_withClock count k h m
  refine ⟨⟨h1, h2, h3⟩, ?_, ?_⟩
  · intro hlt
    exact ⟨(FrameLoop.turns_shows m count k).1 hlt, Loop.turns_shows m _ hlt⟩
  · intro count' k' hmul
    rw [← hmul] at h h1 h2 h3
    obtain ⟨h1', h2', h3'⟩ := runFrames_withClock count' k' h m
    refine ⟨h1'.trans h1.symm, h2'.trans h2.symm, ?_⟩
    change (m.runFrames count' k').machine = (m.runFrames count k).machine.withClock _
    change (m.runFrames count' k').machine = _ at h3'
    change (m.runFrames count k).machine = _ at h3
    rw [h3, h3']
    rfl

/-- Frames of two steps and of one: the tone ends in the first frame, and the
third step faults. -/
theorem runFrames_eq_run_sounding :
    sounding.Untimed (2 * 2) ∧
      (sounding.runFrames 2 2).executed = (sounding.run (2 * 2)).executed ∧
      (sounding.runFrames 2 2).machine =
        (sounding.run (2 * 2)).machine.withClock (sounding.ticks (1 + 1)) ∧
      (FrameLoop.turns 2 2 (.start sounding)).toLoop.Shows (sounding.runFrames 2 2).toRun ∧
      (sounding.runFrames 4 1).outcome = (sounding.runFrames 2 2).outcome ∧
      (sounding.runFrames 4 1).machine =
        (sounding.runFrames 2 2).machine.withClock (sounding.runFrames 4 1).machine := by
  have hlog : sounding.log (sounding.runEvents (2 * 2)) = [.setByte 1 5, .clear] := by
    decide +kernel
  have hfree : sounding.Untimed (2 * 2) := by
    unfold Untimed
    rw [hlog]
    decide
  have hperiods : (sounding.runFrames 2 2).periods = 1 + 1 := by decide +kernel
  obtain ⟨⟨-, hexec, hmachine⟩, hloops, hpacings⟩ := runFrames_eq_run hfree
  obtain ⟨hout, -, hmachine'⟩ := hpacings 4 1 rfl
  rw [hperiods] at hmachine
  exact ⟨hfree, hexec, hmachine, (hloops (by decide)).1, hout, hmachine'⟩

end Machine
end Chip8
