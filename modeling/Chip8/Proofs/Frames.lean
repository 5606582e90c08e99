import Mathlib.Algebra.Group.Nat.Defs
import Chip8.Proofs.Run

/-!
# Frames as repeated steps and ticks

`Machine.nthFrame m k i` is the machine after `i` frames, each `k` steps and a
clock period. `FramesHalt` says where `count` frames halt: after all of them, or
in the frame in which a step faults, which still gets its clock period.

The loop of frames carries two counts in signed 32-bit words, and each of its
turns is a loop of steps of its own.

Results:
* `runFrames_halts`: a sequence of frames ends where its frames halt.
* `runFrames_add_of_ok`, `runFrames_add_of_fault`: a sequence of `a + b` frames
  is one of `a` and, unless that faulted, one of `b` from where it ended.
* `FrameLoop.turns_shows`: the loop carries what the sequence reports, as long
  as each count fits.
* `runFrames_eq_iteration`: all of it.
-/
namespace Chip8

/-- What is reported of frames that come after earlier steps and frames. -/
def FrameRun.after (executed frames : Nat) (r : FrameRun) : FrameRun :=
  { r with executed := executed + r.executed, frames := frames + r.frames }

theorem FrameRun.after_after (e₁ f₁ e₂ f₂ : Nat) (r : FrameRun) :
    (r.after e₂ f₂).after e₁ f₁ = r.after (e₁ + e₂) (f₁ + f₂) := by
  simp only [FrameRun.after, Nat.add_assoc]

namespace Machine

/-! ## The halting point -/

/-- The machine after `i` frames of `k` steps and a clock period. -/
def nthFrame (m : Machine) (k : Nat) : Nat → Machine
  | 0 => m
  | i + 1 => ((m.nthFrame k i).nth k).tick

/-- The `k` steps of the frame that starts at `m` all complete. -/
def FullFrame (m : Machine) (k : Nat) : Prop := m.Halts k ⟨m.nth k, .ok, k⟩

/-- Where `count` frames of `k` steps halt: after all of them, or after `i` whole
frames, `e` steps of the next one and its clock period. -/
inductive FramesHalt (m : Machine) (count k : Nat) : FrameRun → Prop
  | completed (hall : ∀ i < count, (m.nthFrame k i).FullFrame k) :
      FramesHalt m count k ⟨⟨m.nthFrame k count, .ok, count * k⟩, count⟩
  | faulted (i e : Nat) (f : Fault) (hi : i < count)
      (hall : ∀ j < i, (m.nthFrame k j).FullFrame k)
      (hf : (m.nthFrame k i).Halts k ⟨(m.nthFrame k i).nth e, .fault f, e⟩) :
      FramesHalt m count k ⟨⟨((m.nthFrame k i).nth e).tick, .fault f, i * k + e⟩, i⟩

theorem nthFrame_succ (m : Machine) (k i : Nat) :
    m.nthFrame k (i + 1) = (m.nth k).tick.nthFrame k i := by
  induction i with
  | zero => rfl
  | succ i ih => exact congrArg (fun t => (t.nth k).tick) ih

/-! ## Sequences from their first frame -/

theorem framesFrom_eq (k e f count : Nat) (m : Machine) :
    framesFrom k e f count m = (m.runFrames count k).after e f := by
  unfold runFrames
  induction count generalizing e f m with
  | zero => rfl
  | succ count ih =>
    simp only [framesFrom]
    cases (m.runFrame k).outcome with
    | fault g => simp only [FrameRun.after, Nat.zero_add, Nat.add_zero]
    | ok =>
      simp only
      rw [ih (e + _) (f + 1), ih (0 + _) (0 + 1), FrameRun.after_after, Nat.zero_add, Nat.zero_add]

theorem runFrames_of_fault {m : Machine} {k : Nat} {f : Fault}
    (h : (m.runFrame k).outcome = .fault f) (count : Nat) :
    m.runFrames (count + 1) k = ⟨m.runFrame k, 0⟩ := by
  simp only [runFrames, framesFrom, h, Nat.zero_add]
  rw [← h]

theorem runFrames_of_ok {m : Machine} {k : Nat} (h : (m.runFrame k).outcome = .ok) (count : Nat) :
    m.runFrames (count + 1) k =
      ((m.runFrame k).machine.runFrames count k).after (m.runFrame k).executed 1 := by
  rw [runFrames, framesFrom]
  simp only [h]
  rw [framesFrom_eq, Nat.zero_add, Nat.zero_add]

theorem runFrame_eq {m t : Machine} {k e : Nat} {o : Outcome} (h : m.run k = ⟨t, o, e⟩) :
    m.runFrame k = ⟨t.tick, o, e⟩ := by
  simp only [runFrame, h]

theorem framesHalt_succ {m : Machine} {count k : Nat} (h0 : m.FullFrame k) {r : FrameRun}
    (hr : (m.nth k).tick.FramesHalt count k r) : m.FramesHalt (count + 1) k (r.after k 1) := by
  have hnth : ∀ i, (m.nth k).tick.nthFrame k i = m.nthFrame k (i + 1) :=
    fun i => (m.nthFrame_succ k i).symm
  have hfull : ∀ n, (∀ i < n, ((m.nth k).tick.nthFrame k i).FullFrame k) →
      ∀ i < n + 1, (m.nthFrame k i).FullFrame k := by
    intro n hall i hi
    cases i with
    | zero => exact h0
    | succ i => rw [← hnth]; exact hall i (by omega)
  have hmul : ∀ n, k + n * k = (n + 1) * k := fun n => by rw [Nat.succ_mul, Nat.add_comm]
  cases hr with
  | completed hall =>
    have := FramesHalt.completed (hfull count hall)
    simpa only [FrameRun.after, hnth, hmul, Nat.add_comm 1] using this
  | faulted i e f hi hall hf =>
    rw [hnth] at hf
    have := FramesHalt.faulted (i + 1) e f (Nat.succ_lt_succ hi) (hfull i hall) hf
    simpa only [FrameRun.after, hnth, ← Nat.add_assoc, hmul, Nat.add_comm 1] using this

theorem runFrames_halts (m : Machine) (count k : Nat) :
    m.FramesHalt count k (m.runFrames count k) := by
  induction count generalizing m with
  | zero =>
    have h : m.FramesHalt 0 k ⟨⟨m, .ok, 0 * k⟩, 0⟩ := .completed fun i hi => by omega
    rwa [Nat.zero_mul] at h
  | succ count ih =>
    have h := m.run_halts k
    generalize hr : m.run k = r at h
    cases h with
    | completed hall =>
      have hframe := runFrame_eq hr
      rw [runFrames_of_ok (by rw [hframe]), hframe]
      exact framesHalt_succ (.completed hall) (ih _)
    | faulted e f he hf hall =>
      have hframe := runFrame_eq hr
      rw [runFrames_of_fault (by rw [hframe]), hframe]
      have h0 : m.Halts k ⟨m.nth e, .fault f, e⟩ := .faulted e f he hf hall
      have h : m.FramesHalt (count + 1) k ⟨⟨(m.nth e).tick, .fault f, 0 * k + e⟩, 0⟩ :=
        .faulted 0 e f (Nat.succ_pos count) (fun j hj => by omega) h0
      rwa [Nat.zero_mul, Nat.zero_add] at h

/-! ## Consequences of halting -/

theorem FramesHalt.frames_le {m : Machine} {count k : Nat} {r : FrameRun}
    (h : m.FramesHalt count k r) : r.frames ≤ count := by
  cases h with
  | completed => exact Nat.le_refl count
  | faulted i e f hi => exact Nat.le_of_lt hi

theorem FramesHalt.frames_eq_iff {m : Machine} {count k : Nat} {r : FrameRun}
    (h : m.FramesHalt count k r) : r.outcome = .ok ↔ r.frames = count := by
  cases h with
  | completed => simp
  | faulted i e f hi => simp; omega

theorem FramesHalt.executed_of_ok {m : Machine} {count k : Nat} {r : FrameRun}
    (h : m.FramesHalt count k r) (ho : r.outcome = .ok) : r.executed = count * k := by
  cases h with
  | completed => rfl
  | faulted => cases ho

/-- A frame that faults has not completed its last step. -/
theorem FramesHalt.executed_of_fault {m : Machine} {count k : Nat} {r : FrameRun}
    (h : m.FramesHalt count k r) {f : Fault} (ho : r.outcome = .fault f) :
    ∃ e < k, r.executed = r.frames * k + e := by
  cases h with
  | completed => cases ho
  | faulted i e g hi hall hf =>
    refine ⟨e, ?_, rfl⟩
    generalize ht : (m.nthFrame k i).nth e = t at hf
    cases hf with
    | faulted he => assumption

theorem FramesHalt.executed_le {m : Machine} {count k : Nat} {r : FrameRun}
    (h : m.FramesHalt count k r) : r.executed ≤ count * k := by
  cases ho : r.outcome with
  | ok => exact Nat.le_of_eq (h.executed_of_ok ho)
  | fault f =>
    obtain ⟨e, he, hexec⟩ := h.executed_of_fault ho
    have hlt : r.frames ≠ count := fun heq => by
      rw [h.frames_eq_iff.mpr heq] at ho
      cases ho
    have hle := h.frames_le
    calc r.executed
      _ ≤ (r.frames + 1) * k := by rw [hexec, Nat.succ_mul]; omega
      _ ≤ count * k := Nat.mul_le_mul_right k (by omega)

/-- A sequence that faulted does not go on. -/
theorem runFrames_add_of_fault {m : Machine} {k : Nat} {f : Fault} (a b : Nat)
    (h : (m.runFrames a k).outcome = .fault f) : m.runFrames (a + b) k = m.runFrames a k := by
  induction a generalizing m with
  | zero => cases h
  | succ a ih =>
    rw [Nat.succ_add]
    cases ho : (m.runFrame k).outcome with
    | fault g => rw [runFrames_of_fault ho, runFrames_of_fault ho]
    | ok =>
      rw [runFrames_of_ok ho] at h
      rw [runFrames_of_ok ho, runFrames_of_ok ho, ih h]

theorem runFrames_add_of_ok {m : Machine} {k : Nat} (a b : Nat)
    (h : (m.runFrames a k).outcome = .ok) :
    m.runFrames (a + b) k = ((m.runFrames a k).machine.runFrames b k).after
      (m.runFrames a k).executed (m.runFrames a k).frames := by
  induction a generalizing m with
  | zero =>
    rw [Nat.zero_add]
    simp only [runFrames, framesFrom, FrameRun.after, Nat.zero_add]
  | succ a ih =>
    rw [Nat.succ_add]
    cases ho : (m.runFrame k).outcome with
    | fault g =>
      rw [runFrames_of_fault ho] at h
      rw [ho] at h
      cases h
    | ok =>
      rw [runFrames_of_ok ho] at h ⊢
      rw [runFrames_of_ok ho, ih h, FrameRun.after_after]
      rfl

end Machine

/-! ## The loop -/

/-- What the loop of frames carries from turn to turn. -/
structure FrameLoop extends Loop where
  frames : Int32

namespace FrameLoop

def start (m : Machine) : FrameLoop := ⟨.start m, 0⟩

/-- One turn: a loop of `k` steps and a clock period, unless an earlier frame
faulted. -/
def turn (k : Nat) (c : FrameLoop) : FrameLoop :=
  match c.outcome with
  | .fault _ => c
  | .ok =>
    let r := Loop.turns k (.start c.machine)
    { machine := r.machine.tick
      outcome := r.outcome
      executed := c.executed + r.executed
      frames := c.frames + if r.outcome = .ok then 1 else 0 }

def turns (k : Nat) : Nat → FrameLoop → FrameLoop
  | 0, c => c
  | count + 1, c => turns k count (turn k c)

theorem turn_eq (k : Nat) (m : Machine) (e f : Int32) :
    turn k ⟨⟨m, .ok, e⟩, f⟩ =
      ⟨⟨(m.runFrame k).machine, (m.runFrame k).outcome, e + Int32.ofNat (m.runFrame k).executed⟩,
        f + if (m.runFrame k).outcome = .ok then 1 else 0⟩ := by
  simp only [turn, Loop.start, Loop.turns_eq, Machine.runFrame, Int32.zero_add]
  rfl

theorem turns_of_fault (k count : Nat) {c : FrameLoop} {f : Fault} (h : c.outcome = .fault f) :
    turns k count c = c := by
  induction count with
  | zero => rfl
  | succ count ih =>
    have ht : turn k c = c := by simp only [turn, h]
    rw [turns, ht, ih]

theorem turns_eq (k count : Nat) (m : Machine) (e f : Int32) :
    turns k count ⟨⟨m, .ok, e⟩, f⟩ =
      ⟨⟨(m.runFrames count k).machine, (m.runFrames count k).outcome,
        e + Int32.ofNat (m.runFrames count k).executed⟩,
        f + Int32.ofNat (m.runFrames count k).frames⟩ := by
  induction count generalizing m e f with
  | zero => simp [turns, Machine.runFrames, Machine.framesFrom]
  | succ count ih =>
    rw [turns, turn_eq]
    cases ho : (m.runFrame k).outcome with
    | fault g =>
      rw [turns_of_fault k count rfl, Machine.runFrames_of_fault ho]
      simp [ho]
    | ok =>
      rw [ih, Machine.runFrames_of_ok ho]
      simp only [FrameRun.after, Int32.ofNat_add, Int32.add_assoc, if_true]
      rfl

/-- As long as the counts fit, the loop carries what the sequence reports. -/
theorem turns_shows (m : Machine) (count k : Nat) :
    let c := turns k count (start m)
    let r := m.runFrames count k
    (count * k < 2 ^ 31 → c.toLoop.Shows r.toRun) ∧
      (count < 2 ^ 31 → c.frames.toInt = r.frames) := by
  have h := m.runFrames_halts count k
  have hexec := h.executed_le
  have hframes := h.frames_le
  have hturns := turns_eq k count m 0 0
  rw [Int32.zero_add, Int32.zero_add] at hturns
  intro c r
  have hc : c = ⟨⟨r.machine, r.outcome, Int32.ofNat r.executed⟩, Int32.ofNat r.frames⟩ := hturns
  rw [hc]
  constructor
  · intro hlt
    exact ⟨rfl, rfl, Int32.toInt_ofNat_of_lt (Nat.lt_of_le_of_lt hexec hlt)⟩
  · intro hlt
    exact Int32.toInt_ofNat_of_lt (Nat.lt_of_le_of_lt hframes hlt)

end FrameLoop

namespace Machine

/-- **Frames.** A sequence of frames halts where its frames halt: whole frames,
then for a fault the steps before it and one more clock period. It counts the
whole frames and all completed steps, and the loop shows the same as long as its
counts fit. A sequence that completed goes on as a second one would, and one
that faulted does not go on. -/
theorem runFrames_eq_iteration (m : Machine) (count k : Nat) :
    let r := m.runFrames count k
    let c := FrameLoop.turns k count (.start m)
    m.FramesHalt count k r ∧
      r.frames ≤ count ∧
      (r.outcome = .ok ↔ r.frames = count) ∧
      (r.outcome = .ok → r.executed = count * k) ∧
      (∀ f, r.outcome = .fault f → ∃ e < k, r.executed = r.frames * k + e) ∧
      (count * k < 2 ^ 31 → c.toLoop.Shows r.toRun) ∧
      (count < 2 ^ 31 → c.frames.toInt = r.frames) ∧
      (∀ more, r.outcome = .ok → m.runFrames (count + more) k =
        (r.machine.runFrames more k).after r.executed r.frames) ∧
      (∀ more f, r.outcome = .fault f → m.runFrames (count + more) k = r) := by
  intro r c
  have h : m.FramesHalt count k r := m.runFrames_halts count k
  obtain ⟨hsteps, hframes⟩ := FrameLoop.turns_shows m count k
  exact ⟨h, h.frames_le, h.frames_eq_iff, h.executed_of_ok, fun f => h.executed_of_fault, hsteps,
    hframes, fun more => runFrames_add_of_ok count more,
    fun more f => runFrames_add_of_fault count more⟩

/-- One step a frame: the first frame is whole, the second faults at once. -/
theorem runFrames_eq_iteration_stranded :
    ((stranded.runFrames 1 1).outcome = .ok ∧ (stranded.runFrames 1 1).executed = 1 * 1 ∧
      stranded.runFrames (1 + 4) 1 = ((stranded.runFrames 1 1).machine.runFrames 4 1).after
        (stranded.runFrames 1 1).executed (stranded.runFrames 1 1).frames) ∧
    ((stranded.runFrames 2 1).outcome = .fault .unknownInstruction ∧
      (∃ e < 1, (stranded.runFrames 2 1).executed = (stranded.runFrames 2 1).frames * 1 + e) ∧
      stranded.runFrames (2 + 3) 1 = stranded.runFrames 2 1 ∧
      (FrameLoop.turns 1 2 (.start stranded)).toLoop.Shows (stranded.runFrames 2 1).toRun ∧
      (FrameLoop.turns 1 2 (.start stranded)).frames.toInt = (stranded.runFrames 2 1).frames) := by
  have h1 : (stranded.runFrames 1 1).outcome = .ok := by decide +kernel
  have h2 : (stranded.runFrames 2 1).outcome = .fault .unknownInstruction := by decide +kernel
  obtain ⟨-, -, -, hok, -, -, -, hadd, -⟩ := runFrames_eq_iteration stranded 1 1
  obtain ⟨-, -, -, -, hfault, hsteps, hframes, -, hstop⟩ := runFrames_eq_iteration stranded 2 1
  exact ⟨⟨h1, hok h1, hadd 4 h1⟩, h2, hfault _ h2, hstop 3 _ h2, hsteps (by decide),
    hframes (by decide)⟩

end Machine
end Chip8
