import Chip8.Proofs.Run
import Chip8.Proofs.Step

/-!
# What happened to a machine

A host drives a machine by `Action`s: single events and whole runs. Every action
comes down to a list of `Event`s, each a step, a clock period or one call of the
host. A refused call leaves the machine as it was, and so does a step that
faults.

Results:
* `actAll_eq`: the actions leave the machine where their events do.
* `handleAll_induction`: a fact that every event keeps holds after any events.
* `handle_host`: an event that is no step touches neither the stack nor the
  program counter.
* `effect`: what a single event comes to.
* `count_history`: the calls of the host are in the history as often as they are
  made.
-/
namespace Chip8

/-- One thing that happens to a machine. -/
inductive Event
  | step
  | tick
  | press (key : Int)
  | release (key : Int)
  | setKeypad (keys : List Int)
  | clearDrawFlag
  | clearSoundFlag
  | randomByte
  | load (image : List UInt8)
  deriving DecidableEq, Repr

/-- What a host does with a machine. -/
inductive Action
  | event (e : Event)
  | run (n : Nat)
  | runFrame (k : Nat)
  | runFrames (count k : Nat)
  deriving DecidableEq, Repr

namespace Machine

/-! ## Events -/

/-- The machine after a call that may be refused. -/
def unlessRefused {ε : Type} (m : Machine) : Except ε Machine → Machine
  | .error _ => m
  | .ok m' => m'

def handle (m : Machine) : Event → Machine
  | .step => m.afterStep
  | .tick => m.tick
  | .press key => m.unlessRefused (m.pressKey key)
  | .release key => m.unlessRefused (m.releaseKey key)
  | .setKeypad keys => m.unlessRefused (m.setKeypad keys)
  | .clearDrawFlag => m.clearDrawFlag
  | .clearSoundFlag => m.clearSoundFlag
  | .randomByte => m.nextRandomByte.2
  | .load image => m.unlessRefused (m.load image)

def handleAll (m : Machine) (es : List Event) : Machine := es.foldl handle m

/-- The instruction that an event completes. -/
def completes? (m : Machine) : Event → Option Instruction
  | .step =>
    match m.step with
    | .error _ => none
    | .ok _ => m.pending?
  | _ => none

/-- The instructions that the events complete, in order. -/
def log (m : Machine) : List Event → List Instruction
  | [] => []
  | e :: es => (m.completes? e).toList ++ (m.handle e).log es

theorem handleAll_append (m : Machine) (es fs : List Event) :
    m.handleAll (es ++ fs) = (m.handleAll es).handleAll fs := List.foldl_append

theorem log_append (m : Machine) (es fs : List Event) :
    m.log (es ++ fs) = m.log es ++ (m.handleAll es).log fs := by
  induction es generalizing m with
  | nil => rfl
  | cons e es ih => rw [List.cons_append, log, ih, log, List.append_assoc]; rfl

/-- A relation between a machine and the instructions completed so far that every
event keeps holds after any events. -/
theorem handleAll_induction {P : Machine → List Instruction → Prop} {m : Machine}
    (h0 : P m [])
    (hs : ∀ t done e, P t done → P (t.handle e) (done ++ (t.completes? e).toList))
    (es : List Event) : P (m.handleAll es) (m.log es) := by
  suffices h : ∀ t done, P t done → P (t.handleAll es) (done ++ t.log es) from h m [] h0
  induction es with
  | nil =>
    intro t done h
    rw [log, List.append_nil]
    exact h
  | cons e es ih =>
    intro t done h
    rw [log, ← List.append_assoc]
    exact ih (t.handle e) _ (hs t done e h)

/-! ## What the host can touch -/

/-- The machine `m` with those parts of `m'` that an event may write. -/
def hostWrites (m m' : Machine) : Event → Machine
  | .step => m'
  | .tick =>
    { m with delayTimer := m'.delayTimer, soundTimer := m'.soundTimer, soundFlag := m'.soundFlag }
  | .press _ | .release _ | .setKeypad _ => { m with keypad := m'.keypad }
  | .clearDrawFlag => { m with drawFlag := m'.drawFlag }
  | .clearSoundFlag => { m with soundFlag := m'.soundFlag }
  | .randomByte => { m with random := m'.random }
  | .load _ => { m with memory := m'.memory }

theorem handle_frame (m : Machine) (e : Event) : m.hostWrites (m.handle e) e = m.handle e := by
  cases e with
  | press key =>
    simp only [handle, pressKey]
    split <;> rfl
  | release key =>
    simp only [handle, releaseKey]
    split <;> rfl
  | setKeypad keys =>
    simp only [handle, Machine.setKeypad]
    split <;> rfl
  | load image =>
    simp only [handle, Machine.load]
    split <;> rfl
  | _ => rfl

theorem handle_host (m : Machine) (e : Event) (he : e ≠ .step) :
    (m.handle e).stack = m.stack ∧ (m.handle e).pc = m.pc := by
  have hf := m.handle_frame e
  cases e with
  | step => exact absurd rfl he
  | _ => exact ⟨(congrArg stack hf).symm, (congrArg pc hf).symm⟩

theorem completes?_host (m : Machine) (e : Event) (he : e ≠ .step) : m.completes? e = none := by
  cases e with
  | step => exact absurd rfl he
  | _ => rfl

/-! ## Steps -/

theorem completes?_of_ok {m m' : Machine} (h : m.step = .ok m') :
    ∃ i, m.Spells i ∧ m.completes? .step = some i := by
  obtain ⟨i, w, hs, -, -⟩ := step_eq_ok_iff.mp h
  refine ⟨i, hs, ?_⟩
  simp only [completes?, h]
  exact (m.spells_iff i).mp hs

/-- What an event comes to: a call of the host or a clock period, a step that
faults, or an instruction carried out on the machine that has moved past it. -/
inductive Effect (m : Machine) : Event → Prop
  | host {e : Event} (he : e ≠ .step) (hi : m.completes? e = none) : Effect m e
  | faulted (hm : m.handle .step = m) (hi : m.completes? .step = none) : Effect m .step
  | completed (i : Instruction) (w : UInt16) (hs : m.Spells i)
      (hi : m.completes? .step = some i) (hstep : m.step = .ok (m.handle .step))
      (hperform : (m.fetched w).perform i = .ok (m.handle .step)) : Effect m .step

theorem effect (m : Machine) (e : Event) : m.Effect e := by
  by_cases he : e = .step
  · subst he
    cases h : m.step with
    | error f =>
      refine .faulted (afterStep_of_error h) ?_
      simp only [completes?, h]
    | ok t =>
      have ht : m.handle .step = t := afterStep_of_ok h
      obtain ⟨i, hs, hi⟩ := completes?_of_ok h
      obtain ⟨w, -, -, hstep⟩ := step_eq_of_spells hs
      rw [← ht] at h
      exact .completed i w hs hi h (hstep ▸ h)
  · exact .host he (m.completes?_host e he)

theorem handleAll_replicate (m : Machine) (k : Nat) :
    m.handleAll (List.replicate k .step) = m.nth k := by
  induction k with
  | zero => rfl
  | succ k ih => rw [List.replicate_succ', handleAll_append, ih]; rfl

/-! ## Actions -/

/-- The steps of a run. -/
def runEvents (m : Machine) (n : Nat) : List Event := List.replicate (m.run n).executed .step

def frameEvents (m : Machine) (k : Nat) : List Event := m.runEvents k ++ [.tick]

def framesEvents (k : Nat) : Nat → Machine → List Event
  | 0, _ => []
  | count + 1, m =>
    m.frameEvents k ++
      match (m.runFrame k).outcome with
      | .ok => framesEvents k count (m.runFrame k).machine
      | .fault _ => []

/-- The events that an action comes down to. -/
def events (m : Machine) : Action → List Event
  | .event e => [e]
  | .run n => m.runEvents n
  | .runFrame k => m.frameEvents k
  | .runFrames count k => framesEvents k count m

def act (m : Machine) : Action → Machine
  | .event e => m.handle e
  | .run n => (m.run n).machine
  | .runFrame k => (m.runFrame k).machine
  | .runFrames count k => (m.runFrames count k).machine

def actAll (m : Machine) (as : List Action) : Machine := as.foldl act m

/-- The events of a sequence of actions. -/
def history (m : Machine) : List Action → List Event
  | [] => []
  | a :: as => m.events a ++ (m.act a).history as

/-- The instructions that a sequence of actions completes, in order. -/
def completed (m : Machine) (as : List Action) : List Instruction := m.log (m.history as)

theorem handleAll_run (m : Machine) (n : Nat) :
    m.handleAll (m.runEvents n) = (m.run n).machine := by
  rw [runEvents, handleAll_replicate, (m.run_halts n).machine_eq]

theorem handleAll_frame (m : Machine) (k : Nat) :
    m.handleAll (m.frameEvents k) = (m.runFrame k).machine := by
  rw [frameEvents, handleAll_append, handleAll_run]; rfl

theorem handleAll_frames (k e f count : Nat) (m : Machine) :
    m.handleAll (framesEvents k count m) = (framesFrom k e f count m).machine := by
  induction count generalizing e f m with
  | zero => rfl
  | succ count ih =>
    rw [framesEvents, framesFrom, handleAll_append, handleAll_frame]
    cases (m.runFrame k).outcome with
    | ok => exact ih (e + (m.runFrame k).executed) (f + 1) (m.runFrame k).machine
    | fault g => rfl

/-- Calls of the host are in the history as often as the host makes them. -/
theorem count_events (m : Machine) (a : Action) {e : Event} (hs : e ≠ .step) (ht : e ≠ .tick) :
    (m.events a).count e = [a].count (.event e) := by
  have hrun : ∀ (t : Machine) n, (t.runEvents n).count e = 0 := by
    intro t n
    rw [runEvents, List.count_replicate, if_neg (by simpa using hs.symm)]
  have hframe : ∀ (t : Machine) k, (t.frameEvents k).count e = 0 := by
    intro t k
    rw [frameEvents, List.count_append, hrun, List.count_singleton, if_neg (by simpa using ht.symm)]
  cases a with
  | event d => simp [events, List.count_singleton]
  | run n => exact hrun m n
  | runFrame k => exact hframe m k
  | runFrames count k =>
    show (framesEvents k count m).count e = 0
    induction count generalizing m with
    | zero => rfl
    | succ count ih =>
      rw [framesEvents, List.count_append, hframe]
      split
      · rw [ih]
      · rfl

theorem count_history (m : Machine) (as : List Action) {e : Event} (hs : e ≠ .step)
    (ht : e ≠ .tick) : (m.history as).count e = as.count (.event e) := by
  induction as generalizing m with
  | nil => rfl
  | cons a as ih =>
    rw [history, List.count_append, m.count_events a hs ht, ih, ← List.count_append]
    rfl

theorem act_eq (m : Machine) (a : Action) : m.act a = m.handleAll (m.events a) := by
  cases a with
  | event e => rfl
  | run n => exact (m.handleAll_run n).symm
  | runFrame k => exact (m.handleAll_frame k).symm
  | runFrames count k => exact (handleAll_frames k 0 0 count m).symm

theorem actAll_eq (m : Machine) (as : List Action) : m.actAll as = m.handleAll (m.history as) := by
  induction as generalizing m with
  | nil => rfl
  | cons a as ih => rw [history, handleAll_append, ← act_eq, ← ih]; rfl

end Machine
end Chip8
