import Chip8.Host
import Chip8.Step

/-!
# Runs of many steps

`Machine.run` steps until the first fault. A frame is a burst of steps followed
by one clock period, also when the burst ended in a fault; `Machine.runFrames`
starts no frame after one that faulted.
-/
namespace Chip8

/-- Where a run ended: the machine, the outcome and the completed steps. After a
fault the machine is the one whose step faulted. -/
structure Run where
  machine : Machine
  outcome : Outcome
  executed : Nat
  deriving DecidableEq, Repr

/-- Where a sequence of frames ended; `frames` counts the frames without a fault. -/
structure FrameRun extends Run where
  frames : Nat
  deriving DecidableEq, Repr

namespace Machine

/-- Up to `n` more steps, after `executed` earlier ones. -/
def runFrom (executed : Nat) : Nat → Machine → Run
  | 0, m => ⟨m, .ok, executed⟩
  | n + 1, m =>
    match m.step with
    | .error f => ⟨m, .fault f, executed⟩
    | .ok m' => runFrom (executed + 1) n m'

/-- `run`: up to `n` steps, halting at the first fault. -/
def run (m : Machine) (n : Nat) : Run := runFrom 0 n m

/-- `run_frame`: up to `k` steps, then one clock period. -/
def runFrame (m : Machine) (k : Nat) : Run :=
  let r := m.run k
  { r with machine := r.machine.tick }

/-- Up to `count` more frames, after earlier ones. -/
def framesFrom (k executed frames : Nat) : Nat → Machine → FrameRun
  | 0, m => ⟨⟨m, .ok, executed⟩, frames⟩
  | count + 1, m =>
    let r := m.runFrame k
    match r.outcome with
    | .ok => framesFrom k (executed + r.executed) (frames + 1) count r.machine
    | .fault f => ⟨⟨r.machine, .fault f, executed + r.executed⟩, frames⟩

/-- `run_frames`: up to `count` frames of `k` steps each. -/
def runFrames (m : Machine) (count k : Nat) : FrameRun := framesFrom k 0 0 count m

end Machine
end Chip8
