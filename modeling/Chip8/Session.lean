import Chip8.Image.Save
import Chip8.Loader
import Chip8.Log.Session
import Chip8.Progress
import Chip8.Run
import Chip8.Settings

/-!
# Sessions

A session opens its log, loads a program, runs it frame by frame and reports how
it ended; a picture of the final display may be saved. It comes in three phases,
so that a program can act between them: `Session.start` up to the loaded machine,
`Session.play` for the run, and `Session.finish` for the report. `Session.run` is
all three at once.

A session ends with an exit code: 0 when all frames completed, 1 after a fault, 2
when no program could be loaded. Some settings that were accepted still cannot be
carried out; then the session is aborted. Two of the reasons lie with the libraries
that a session relies on, its `Loops` and its `PictureLibrary`.
-/
namespace Chip8

namespace Machine

def advance (k : Nat) (r : FrameRun) : FrameRun :=
  match r.outcome with
  | .fault _ => r
  | .ok =>
    let next := r.machine.runFrame k
    let completed := match next.outcome with
      | .ok => 1
      | .fault _ => 0
    ⟨⟨next.machine, next.outcome, r.executed + next.executed⟩, r.frames + completed⟩

/-- Up to `count` frames of `k` steps each under a progress bar. The bar advances
also past the frames that a fault leaves out. -/
def runFramesTracked (m : Machine) (count k : Nat) : FrameRun × List BarCall :=
  (Meter.plan count none none []).scan (fun index : Nat => (index : Int))
    (fun r _ => advance k r) ⟨⟨m, .ok, 0⟩, 0⟩ (List.range count)

end Machine

namespace Session

inductive Abort where
  | level (e : Log.LevelError)
  /-- An empty list stands where a level is named. -/
  | listForLevel
  | seed (e : SeedError)
  /-- An empty list stands where a seed is needed. -/
  | listForSeed
  | badPath (path : String)
  /-- The loops refuse to count the frames or the steps, with this text. -/
  | counts (text : String)
  | picture (e : PictureError)
  deriving DecidableEq, Repr

def Abort.message : Abort → String
  | .level err => err.message
  | .listForLevel => "'list' object has no attribute 'upper'"
  | .seed err => err.message
  | .listForSeed =>
    "PRNGKey accepts a scalar seed, but was given an array of shape (0,) != (). " ++
      "Use jax.vmap for batching"
  | .badPath path => PathError.nul.message path
  | .counts text => text
  | .picture err => err.message

inductive Ending where
  | exit (code : Nat)
  | aborted (reason : Abort)
  deriving DecidableEq, Repr

structure Console where
  /-- The console shows colours. -/
  coloured : Bool
  /-- The seed that the clock gives. -/
  clockSeed : Int
  deriving DecidableEq, Repr

/-- What the clock says at the end: the time since the start, and the steps in a
second of the run. -/
structure Readings where
  elapsed : Log.Elapsed
  rate : Binary64
  deriving DecidableEq, Repr

/-- The loops that run frames, and steps in a frame: the text with which they refuse to
count so many, if they do. They count in 32 bits, and steps only if there are frames. -/
structure Loops where
  refusal? : (frames steps : Nat) → Option String
  takes : ∀ frames steps, frames < 0x80000000 → frames = 0 ∨ steps < 0x80000000 →
    refusal? frames steps = none
  refuses : ∀ frames steps, 0x80000000 ≤ frames → refusal? frames steps ≠ none

/-- Loops that refuse any count of more than 31 bits that they come to. -/
def Loops.bounded : Loops where
  refusal? frames steps :=
    if frames < 0x80000000 ∧ (frames = 0 ∨ steps < 0x80000000) then none
    else
      let count := if frames < 0x80000000 then steps else frames
      some s!"Python int {count} too large to convert to int32"
  takes _ _ hframes hsteps := if_pos ⟨hframes, hsteps⟩
  refuses frames _ h := by
    rw [if_neg fun hsmall => Nat.not_lt.mpr h hsmall.1]
    nofun

/-- The libraries that a session relies on. -/
structure Libraries where
  loops : Loops
  pictures : PictureLibrary

def logger (level : Log.Level) (console : Console) : Log.Logger :=
  ⟨"Session", level, console.coloured, true⟩

/-- The loader's logger, once a session has set the level of all shared loggers. -/
def loader (level : Log.Level) (console : Console) : Log.Logger :=
  (Log.Registry.initial.setAllTo level).logger Log.loaderName console.coloured

/-- `create_state`: the machine that the settings ask for. -/
def machine (s : Settings) (console : Console) : Except Abort Machine :=
  match s.seed.getD (.value console.clockSeed) with
  | .empty => .error .listForSeed
  | .value seed =>
    match RandomKey.ofSeed seed with
    | .error e => .error (.seed e)
    | .ok key => .ok (Machine.boot key (if s.wrapSprites then .wrap else .clip))

/-- Opens the log and loads the program, whose file was read with the given
result. -/
def start (s : Settings) (level : Log.Level) (console : Console)
    (content : Except PathError (List UInt8)) : List Log.Line × Except Ending Machine :=
  let log := logger level console
  let opening := log.inform (Log.openingMessages s.entries)
  match machine s console with
  | .error reason => (opening, .error (.aborted reason))
  | .ok m =>
    match m.loadRom (loader level console) s.romPath content with
    | (lines, .ok m') => (opening ++ lines, .ok m')
    | (lines, .error (.badPath path)) => (opening ++ lines, .error (.aborted (.badPath path)))
    | (lines, .error e) => (opening ++ lines ++ log.logAt .critical e.message, .error (.exit 2))

/-- Runs the program, with the calls on the progress bar if there is one. -/
def play (loops : Loops) (s : Settings) (m : Machine) : Except Abort (FrameRun × List BarCall) :=
  let count := s.frames.toNat
  let k := s.instructionsPerFrame.toNat
  match loops.refusal? count k with
  | some text => .error (.counts text)
  | none =>
    .ok (if s.progress then m.runFramesTracked count k else (m.runFrames count k, []))

structure Picture where
  path : String
  image : Image
  deriving DecidableEq, Repr

/-- The picture that the settings ask for, if they ask for one. The file was, or
would be, opened for writing with the given result. -/
def picture? (pictures : PictureLibrary) (s : Settings) (m : Machine)
    (target : Except PathError Unit) : Except Abort (Option Picture) :=
  match s.screenshot with
  | none | some .empty => .ok none
  | some (.value "") => .ok none
  | some (.value path) =>
    match m.display.save pictures path s.scale s.colourScheme target with
    | .error e => .error (.picture e)
    | .ok image => .ok (some ⟨path, image⟩)

def statistics (r : FrameRun) (rate : Binary64) : List (String × Value) := [
  ("frames", .int r.frames),
  ("instructions", .int r.executed),
  ("outcome", .text r.outcome.name),
  ("instructions_per_second", .real rate)]

/-- Reports a fault, makes the picture and closes the log. -/
def finish (pictures : PictureLibrary) (s : Settings) (level : Log.Level) (console : Console)
    (r : FrameRun) (target : Except PathError Unit) (now : Readings) :
    List Log.Line × Option Picture × Ending :=
  let log := logger level console
  let (code, faults) := match r.outcome with
    | .ok => (0, [])
    | o@(.fault _) => (1, log.logAt .error (r.machine.faultLine o))
  let closing := log.inform (Log.closingMessages now.elapsed (statistics r now.rate))
  match picture? pictures s r.machine target with
  | .error reason => (faults, none, .aborted reason)
  | .ok none => (faults ++ closing, none, .exit code)
  | .ok (some p) =>
    (faults ++ log.logAt .info ("Saved final frame to " ++ p.path) ++ closing, some p, .exit code)

structure Report where
  lines : List Log.Line
  bar : List BarCall
  picture : Option Picture
  ending : Ending

def level (s : Settings) : Except Abort Log.Level :=
  match s.logLevel with
  | .empty => .error .listForLevel
  | .value text =>
    match Log.Level.ofText text with
    | .error e => .error (.level e)
    | .ok l => .ok l

/-- `run_session`: a whole session. `content` is what reading the program's file yields,
`target` whether the file of the picture can be written. -/
def run (lib : Libraries) (s : Settings) (console : Console)
    (content : Except PathError (List UInt8)) (target : Except PathError Unit)
    (now : Readings) : Report :=
  match level s with
  | .error reason => ⟨[], [], none, .aborted reason⟩
  | .ok level =>
    match start s level console content with
    | (lines, .error ending) => ⟨lines, [], none, ending⟩
    | (lines, .ok m) =>
      match play lib.loops s m with
      | .error reason => ⟨lines, [], none, .aborted reason⟩
      | .ok (r, bar) =>
        let (more, picture, ending) := finish lib.pictures s level console r target now
        ⟨lines ++ more, bar, picture, ending⟩

end Session
end Chip8
