import Mathlib.Algebra.Group.Int.Defs
import Chip8.Proofs.Diagnosis
import Chip8.Proofs.Loading
import Chip8.Proofs.Progress
import Chip8.Proofs.Registry
import Chip8.Proofs.Rendering
import Chip8.Proofs.Settings

/-!
# What a session reports

A session that was planned from a command line ends in one of four ways. It is
aborted before anything happens if the value of its log level was taken away, and
aborted before anything is loaded if the path of its program can name no file. It
ends with exit code 2 if the file cannot be read or is too long. Otherwise it runs
the frames, and `Session.Tells` lists what it tells of them: the exit code, the
statistics at the end of the log, one line at level ERROR about a fault, and the
picture of the final display.

Files and libraries may be any. What is asked of them is that the loops take the counts
of the session (`Counted`), which counts below 2 ^ 31 ensure, and that the library for
pictures saves the one that was asked for (`Savable`).

Results:
* `errors_start`, `errors_finish`: the lines at level ERROR.
* `picture?_of_savable`: the picture shows the display.
* `tells_of_started`: what a session tells once its program is loaded.
* `run_of_noLevel`, `run_cases`: the ways in which a session ends.
* `loop_shows`: what the loop over its frames counts.
* `session_reported`: all of it.
-/
namespace Chip8

namespace Session

/-! ## Lines at level ERROR -/

def errors (lines : List Log.Line) : List Log.Line := lines.filter fun line => line.level == "ERROR"

theorem errors_append (a b : List Log.Line) : errors (a ++ b) = errors a ++ errors b :=
  List.filter_append a b

theorem errors_logAt (l : Log.Logger) {level : Log.Level} (h : level ≠ .error) (message : String) :
    errors (l.logAt level message) = [] := by
  have hname : (level.name == "ERROR") = false := by
    cases level <;> first | decide | contradiction
  rw [Log.Logger.logAt_eq]
  split
  · simp only [errors, List.filter_cons, hname, Bool.false_eq_true, if_false, List.filter_nil]
  · rfl

theorem errors_logAt_error (l : Log.Logger) (message : String) :
    errors (l.logAt .error message) = l.logAt .error message := by
  rw [Log.Logger.logAt_eq]
  split <;> rfl

theorem errors_inform (l : Log.Logger) (messages : List String) :
    errors (l.inform messages) = [] := by
  unfold Log.Logger.inform
  induction messages with
  | nil => rfl
  | cons message messages ih =>
    rw [List.flatMap_cons, errors_append, ih, errors_logAt l (by decide)]
    rfl

/-! ## The start -/

/-- The loader's logger is at the level of the session, like all others. -/
theorem loader_eq (level : Log.Level) (console : Console) :
    loader level console = ⟨Log.loaderName, level, console.coloured, true⟩ :=
  Log.Registry.logger_setAllTo ..

/-- The machine that a key and the policy for sprites call for. -/
def booted (s : Settings) (key : RandomKey) : Machine :=
  Machine.boot key (if s.wrapSprites then .wrap else .clip)

/-- The program's file cannot be read, or it is longer than the program area. -/
def Unloadable : Except PathError (List UInt8) → Prop
  | .error _ => True
  | .ok image => 3584 < image.length

variable {s : Settings} {level : Log.Level} {console : Console} {m : Machine}
  {content : Except PathError (List UInt8)}

theorem machine_eq {seed : Int} {key : RandomKey} (hseed : s.seed = some (.value seed))
    (hkey : RandomKey.ofSeed seed = .ok key) (console : Console) :
    machine s console = .ok (booted s key) := by
  simp only [machine, hseed, Option.getD_some, hkey]
  rfl

theorem errors_start (s : Settings) (level : Log.Level) (console : Console)
    (content : Except PathError (List UInt8)) : errors (start s level console content).1 = [] := by
  unfold start
  cases machine s console with
  | error reason => exact errors_inform _ _
  | ok m =>
    simp only [Machine.loadRom]
    have hdebug := fun l => errors_logAt l (show Log.Level.debug ≠ .error by decide)
    have hinfo := fun l => errors_logAt l (show Log.Level.info ≠ .error by decide)
    have hcritical := fun l => errors_logAt l (show Log.Level.critical ≠ .error by decide)
    cases m.loadContent s.romPath content with
    | ok p => simp only [errors_append, errors_inform, hdebug, hinfo, List.append_nil]
    | error e =>
      cases e <;> simp only [errors_append, errors_inform, hdebug, hcritical, List.append_nil]

theorem start_of_badPath (hm : machine s console = .ok m) (level : Log.Level) :
    (start s level console (.error .nul)).2 = .error (.aborted (.badPath s.romPath)) := by
  simp only [start, hm, Machine.loadRom, Machine.loadContent]

theorem start_of_unloadable (hm : machine s console = .ok m) (hne : content ≠ .error .nul)
    (h : Unloadable content) (level : Log.Level) :
    (start s level console content).2 = .error (.exit 2) := by
  simp only [start, hm, Machine.loadRom]
  cases content with
  | error e =>
    cases e with
    | nul => exact absurd rfl hne
    | _ => rfl
  | ok image =>
    have hlong : ¬ image.length ≤ maxProgramSize := Nat.not_le.mpr h
    simp only [Machine.loadContent, Machine.load, if_neg hlong]

theorem start_of_loadable (hm : machine s console = .ok m) {image : List UInt8}
    (h : image.length ≤ 3584) (level : Log.Level) :
    ∃ t, m.load image = .ok t ∧ (start s level console (.ok image)).2 = .ok t := by
  have hload : m.load image = .ok { m with memory := overwrite m.memory programStart image } :=
    if_pos h
  refine ⟨_, hload, ?_⟩
  simp only [start, hm, Machine.loadRom, Machine.loadContent, hload]

/-! ## The picture -/

def wanted? (s : Settings) : Option String :=
  match s.screenshot with
  | none | some .empty => none
  | some (.value path) => if path = "" then none else some path

/-- If the settings ask for a picture, the library saves it. -/
def Savable (pictures : PictureLibrary) (s : Settings) (target : Except PathError Unit) : Prop :=
  ∀ path, wanted? s = some path → pictures.refusal? path s.scale target = none

variable {pictures : PictureLibrary}

theorem picture?_of_unwanted (h : wanted? s = none) (m : Machine)
    (target : Except PathError Unit) : picture? pictures s m target = .ok none := by
  unfold picture?
  split
  · rfl
  · rfl
  · rfl
  · rename_i path hpath hs
    simp only [wanted?, hs] at h
    rw [if_neg hpath] at h
    cases h

/-- A picture that is asked for shows the display. It is made unless the library refuses. -/
theorem picture?_of_wanted (hu : s.Usable) {path : String} (h : wanted? s = some path)
    (pictures : PictureLibrary) (m : Machine) (target : Except PathError Unit) :
    ∃ image p, Palette.ofName s.colourScheme = .ok p ∧ image.Shows m.display p s.scale.toNat ∧
      picture? pictures s m target =
        match pictures.refusal? path s.scale target with
        | some e => .error (.picture (.save e))
        | none => .ok (some ⟨path, image⟩) := by
  obtain ⟨p, hp⟩ := hu.palette
  obtain ⟨image, hrender, hshows⟩ := render_grid m.display p hu.scale
  refine ⟨image, p, hp, hshows, ?_⟩
  unfold wanted? at h
  split at h
  · cases h
  · cases h
  · rename_i t hs
    split at h
    · cases h
    · cases h
      simp only [picture?, hs, Display.save, hp, hrender]
      cases pictures.refusal? path s.scale target <;> rfl

/-- A session whose picture can be saved has the one it was asked for, or none. -/
theorem picture?_of_savable (hu : s.Usable) {target : Except PathError Unit}
    (hs : Savable pictures s target) (m : Machine) :
    ∃ po, picture? pictures s m target = .ok po ∧ (wanted? s = none → po = none) ∧
      ∀ path, wanted? s = some path → ∃ image p, Palette.ofName s.colourScheme = .ok p ∧
        po = some ⟨path, image⟩ ∧ image.Shows m.display p s.scale.toNat := by
  cases hw : wanted? s with
  | none => exact ⟨none, picture?_of_unwanted hw _ _, fun _ => rfl, nofun⟩
  | some path =>
    obtain ⟨image, p, hp, hshows, hpo⟩ := picture?_of_wanted hu hw pictures m target
    rw [hs path hw] at hpo
    refine ⟨_, hpo, nofun, ?_⟩
    rintro _ ⟨⟩
    exact ⟨image, p, hp, rfl, hshows⟩

/-! ## The end -/

variable {r : FrameRun} {target : Except PathError Unit} {now : Readings} {po : Option Picture}

theorem finish_snd (h : picture? pictures s r.machine target = .ok po) :
    (finish pictures s level console r target now).2 =
      (po, .exit (if r.outcome = .ok then 0 else 1)) := by
  unfold finish
  rw [h]
  cases r.outcome <;> cases po <;> rfl

/-- The log ends with the statistics. -/
theorem finish_closing (h : picture? pictures s r.machine target = .ok po) :
    ∃ before, (finish pictures s level console r target now).1 = before ++
      (logger level console).inform (Log.closingMessages now.elapsed (statistics r now.rate)) := by
  unfold finish
  rw [h]
  cases po with
  | none => exact ⟨_, rfl⟩
  | some p => exact ⟨_, rfl⟩

/-- A fault is the only thing that is told at level ERROR. -/
theorem errors_finish (h : picture? pictures s r.machine target = .ok po) :
    errors (finish pictures s level console r target now).1 =
      match r.outcome with
      | .ok => []
      | .fault f => (logger level console).logAt .error (r.machine.faultLine (.fault f)) := by
  unfold finish
  rw [h]
  cases r.outcome <;> cases po <;>
    simp only [errors_append, errors_inform, errors_logAt_error, List.append_nil, List.nil_append,
      errors_logAt _ (show Log.Level.info ≠ .error by decide)]

/-! ## Whole sessions -/

theorem level_eq (h : s.logLevel = .value level.name) : Session.level s = .ok level := by
  simp only [Session.level, h, Log.Level.ofText_name]

variable {lib : Libraries}

theorem run_of_noLevel (h : s.logLevel = .empty) :
    run lib s console content target now = ⟨[], [], none, .aborted .listForLevel⟩ := by
  simp only [run, Session.level, h]

theorem run_of_unstarted {ending : Ending} (hl : Session.level s = .ok level)
    (h : (start s level console content).2 = .error ending) :
    run lib s console content target now =
      ⟨(start s level console content).1, [], none, ending⟩ := by
  simp only [run, hl]
  generalize start s level console content = began at h ⊢
  obtain ⟨lines, result⟩ := began
  cases h
  rfl

theorem run_of_unplayed {reason : Abort} (hl : Session.level s = .ok level)
    (h : (start s level console content).2 = .ok m)
    (hplay : play lib.loops s m = .error reason) :
    run lib s console content target now =
      ⟨(start s level console content).1, [], none, .aborted reason⟩ := by
  simp only [run, hl]
  generalize start s level console content = began at h ⊢
  obtain ⟨lines, result⟩ := began
  cases h
  simp only [hplay]

theorem run_of_played {bar : List BarCall} (hl : Session.level s = .ok level)
    (h : (start s level console content).2 = .ok m)
    (hplay : play lib.loops s m = .ok (r, bar)) :
    let ended := finish lib.pictures s level console r target now
    run lib s console content target now =
      ⟨(start s level console content).1 ++ ended.1, bar, ended.2.1, ended.2.2⟩ := by
  simp only [run, hl]
  generalize start s level console content = began at h ⊢
  obtain ⟨lines, result⟩ := began
  cases h
  simp only [hplay]

/-- What a session tells of the frames `r` that it ran from the loaded machine. -/
structure Tells (s : Settings) (level : Log.Level) (console : Console) (now : Readings)
    (m : Machine) (k : Nat) (r : FrameRun) (report : Report) : Prop where
  ending : report.ending = .exit (if r.outcome = .ok then 0 else 1)
  closing : level.rank ≤ Log.Level.info.rank → ∃ before, report.lines = before ++
    [Log.rule, "Session finished in " ++ now.elapsed.text ++ "s",
      "  frames: " ++ toString r.frames, "  instructions: " ++ toString r.executed,
      "  outcome: " ++ r.outcome.name,
      "  instructions_per_second: " ++ now.rate.fixed 4, Log.rule].map fun message =>
        ⟨true, console.coloured, "INFO", "Session", message⟩
  noError : r.outcome = .ok → errors report.lines = []
  error : ∀ f, r.outcome = .fault f → ∃ q, m.Stopped k r f q ∧
    (q.word? = none ↔ f = .pcOutOfRange) ∧
    errors report.lines = if level = .critical then [] else
      [⟨true, console.coloured, "ERROR", "Session",
        f.name ++ " at pc=0x" ++ Text.hex 3 q.pc.toNat ++ " (opcode " ++ q.wordText ++ ")"⟩]
  noPicture : wanted? s = none → report.picture = none
  picture : ∀ path, wanted? s = some path → ∃ image p, Palette.ofName s.colourScheme = .ok p ∧
    report.picture = some ⟨path, image⟩ ∧ image.Shows r.machine.display p s.scale.toNat

theorem closingMessages_eq (now : Readings) (r : FrameRun) :
    Log.closingMessages now.elapsed (statistics r now.rate) =
      [Log.rule, "Session finished in " ++ now.elapsed.text ++ "s",
        "  frames: " ++ toString r.frames, "  instructions: " ++ toString r.executed,
        "  outcome: " ++ r.outcome.name,
        "  instructions_per_second: " ++ now.rate.fixed 4, Log.rule] := by
  rfl

/-- A session that loaded its program tells of the frames that it ran. -/
theorem tells_of_started (hu : s.Usable) (hl : Session.level s = .ok level)
    (hc : Counted lib.loops s) (hs : Savable lib.pictures s target) (now : Readings)
    (h : (start s level console content).2 = .ok m) :
    Tells s level console now m s.instructionsPerFrame.toNat
      (m.runFrames s.frames.toNat s.instructionsPerFrame.toNat)
      (run lib s console content target now) := by
  obtain ⟨bar, hplay⟩ := play_of_counted hc m
  rw [run_of_played hl h hplay]
  generalize hr : m.runFrames s.frames.toNat s.instructionsPerFrame.toNat = r
  obtain ⟨po, hpo, hnone, hsome⟩ := picture?_of_savable hu hs r.machine
  have hsnd : (finish lib.pictures s level console r target now).2 = _ := finish_snd hpo
  have herrors : errors (finish lib.pictures s level console r target now).1 = _ :=
    errors_finish hpo
  refine ⟨?_, ?_, ?_, ?_, ?_, ?_⟩
  · rw [hsnd]
  · intro hinfo
    obtain ⟨before, hbefore⟩ :
        ∃ before, (finish lib.pictures s level console r target now).1 = before ++ _ :=
      finish_closing hpo
    have hlog : (logger level console).level.rank ≤ Log.Level.info.rank := hinfo
    refine ⟨(start s level console content).1 ++ before, ?_⟩
    rw [hbefore, Log.Logger.inform_of_le hlog, closingMessages_eq, List.append_assoc]
    rfl
  · intro ho
    rw [errors_append, errors_start, herrors, ho]
    rfl
  · intro f ho
    obtain ⟨q, hq⟩ : ∃ q, m.Stopped s.instructionsPerFrame.toNat r f q := by
      rw [← hr] at ho ⊢
      exact Machine.runFrames_stopped ho
    refine ⟨q, hq, Machine.word?_eq_none_of_error hq.step, ?_⟩
    rw [errors_append, errors_start, herrors, ho]
    simp only [List.nil_append, hq.faultLine_eq, Machine.faultLine_eq, Log.Logger.logAt_eq]
    cases level <;> rfl
  · rw [hsnd]
    exact hnone
  · rw [hsnd]
    exact hsome

/-- What reading the program's file can come to. -/
theorem content_cases (content : Except PathError (List UInt8)) :
    content = .error .nul ∨ (content ≠ .error .nul ∧ Unloadable content) ∨
      ∃ image, content = .ok image ∧ image.length ≤ 3584 := by
  cases content with
  | error e =>
    by_cases he : e = .nul
    · exact .inl (congrArg _ he)
    · exact .inr (.inl ⟨fun h => he (Except.error.inj h), trivial⟩)
  | ok image =>
    rcases Nat.lt_or_ge 3584 image.length with hlong | hfits
    · exact .inr (.inl ⟨nofun, hlong⟩)
    · exact .inr (.inr ⟨image, rfl, hfits⟩)

theorem unloadable_ok_iff (image : List UInt8) :
    Unloadable (.ok image) ↔ ¬ image.length ≤ 3584 := Nat.not_le.symm

/-- A session with a level that has a name, by what its program's file yielded. -/
theorem run_cases (hu : s.Usable) (hm : machine s console = .ok m)
    (hl : Session.level s = .ok level) (hc : Counted lib.loops s)
    (hs : Savable lib.pictures s target) (content : Except PathError (List UInt8))
    (now : Readings) :
    let report := run lib s console content target now
    let lines := (start s level console content).1
    (content = .error .nul → report = ⟨lines, [], none, .aborted (.badPath s.romPath)⟩) ∧
    (content ≠ .error .nul → Unloadable content → report = ⟨lines, [], none, .exit 2⟩) ∧
    ∀ image, content = .ok image → image.length ≤ 3584 → ∃ t, m.load image = .ok t ∧
      Tells s level console now t s.instructionsPerFrame.toNat
        (t.runFrames s.frames.toNat s.instructionsPerFrame.toNat) report := by
  refine ⟨?_, ?_, ?_⟩
  · rintro rfl
    exact run_of_unstarted hl (start_of_badPath hm level)
  · intro hne h
    exact run_of_unstarted hl (start_of_unloadable hm hne h level)
  · rintro image rfl hlen
    obtain ⟨t, hload, hstart⟩ := start_of_loadable hm hlen level
    exact ⟨t, hload, tells_of_started hu hl hc hs now hstart⟩

/-- A session ends with exit code 2 exactly if its program's file could not be
loaded and its path could name a file. -/
theorem ending_eq_iff (hu : s.Usable) (hm : machine s console = .ok m)
    (hl : Session.level s = .ok level) (hc : Counted lib.loops s)
    (hs : Savable lib.pictures s target) (content : Except PathError (List UInt8))
    (now : Readings) :
    (run lib s console content target now).ending = .exit 2 ↔
      content ≠ .error .nul ∧ Unloadable content := by
  obtain ⟨hbad, hunloaded, hloaded⟩ := run_cases hu hm hl hc hs content now
  rcases content_cases content with h | ⟨hne, h⟩ | ⟨image, h, hlen⟩
  · rw [hbad h]
    simp [h]
  · rw [hunloaded hne h]
    simp [hne, h]
  · obtain ⟨t, -, htells⟩ := hloaded image h hlen
    rw [htells.ending, h, unloadable_ok_iff]
    split <;> simp [hlen]

/-- Settings that ask for fewer than 2 ^ 31 steps ask for counts that every loop takes. -/
theorem counts_of_lt (hu : s.Usable)
    (hcount : s.frames * max 1 (s.instructionFrequency / 60) < 2 ^ 31) :
    let count := s.frames.toNat
    let k := s.instructionsPerFrame.toNat
    (count : Int) = s.frames ∧ (k : Int) = max 1 (s.instructionFrequency / 60) ∧
      count * k < 2 ^ 31 ∧ count < 2 ^ 31 ∧ ∀ loops, Counted loops s := by
  intro count k
  have hframes : (count : Int) = s.frames := Int.toNat_of_nonneg hu.frames
  have hsteps : (k : Int) = max 1 (s.instructionFrequency / 60) := by
    have := hu.instructionsPerFrame
    omega
  have hone : 1 ≤ k := by omega
  rw [← hframes, ← hsteps] at hcount
  have hlt : count * k < 2 ^ 31 := by exact_mod_cast hcount
  have hfew : count < 2 ^ 31 := Nat.lt_of_le_of_lt (Nat.le_mul_of_pos_right _ hone) hlt
  refine ⟨hframes, hsteps, hlt, hfew, fun loops => loops.takes count k hfew ?_⟩
  rcases Nat.eq_zero_or_pos count with hzero | hpos
  · exact .inl hzero
  · exact .inr (Nat.lt_of_le_of_lt (Nat.le_mul_of_pos_left _ hpos) hlt)

/-- The loop over the frames of a session counts right below 2 ^ 31 steps. -/
theorem loop_shows (m : Machine) {count k : Nat} (hlt : count * k < 2 ^ 31)
    (hfew : count < 2 ^ 31) :
    let r := m.runFrames count k
    let c := FrameLoop.turns k count (.start m)
    c.toLoop.Shows r.toRun ∧ c.frames.toInt = r.frames := by
  intro r c
  obtain ⟨hshows, hcounted⟩ := FrameLoop.turns_shows m count k
  exact ⟨hshows hlt, hcounted hfew⟩

/-- **Sessions.** Of every command line that is accepted with a seed in range and
a picture that can be saved, if any: with the value of its log level taken away
the session is aborted before anything happens. Otherwise it is aborted if the
path of its program can name no file. It ends with exit code 2 exactly if the
file cannot be read for any other reason or is too long, and has then neither run
anything nor made a picture. If the program was loaded, the session tells of the
frames that it ran: what the loop over the frames counts is in its statistics, a
fault decides about the exit code and the line at level ERROR, and the picture
shows the final display. -/
theorem session_reported {arguments : List String} {s : Settings} {seed : Int} {lib : Libraries}
    {target : Except PathError Unit} (hplan : Program.plan arguments = .session s)
    (hseed : s.seed = some (.value seed)) (hrange : -2 ^ 63 ≤ seed ∧ seed < 2 ^ 63)
    (hsavable : Savable lib.pictures s target)
    (hcount : s.frames * max 1 (s.instructionFrequency / 60) < 2 ^ 31)
    (console : Console) (content : Except PathError (List UInt8)) (now : Readings) :
    let report := run lib s console content target now
    (∀ files : FileSystem, files.read s.romPath = content → Program.target s files = target →
      Program.run arguments ⟨files, lib, console, now⟩ = .session report ∧
        (content = .error .nul ↔ Char.ofNat 0 ∈ s.romPath.toList)) ∧
    ((s.logLevel = .empty ∧ report = ⟨[], [], none, .aborted .listForLevel⟩) ∨
      ∃ level : Log.Level, s.logLevel = .value level.name ∧
        let lines := (start s level console content).1
        (content = .error .nul →
          report = ⟨lines, [], none, .aborted (.badPath s.romPath)⟩) ∧
        (report.ending = .exit 2 ↔ content ≠ .error .nul ∧ Unloadable content) ∧
        (report.ending = .exit 2 → report = ⟨lines, [], none, .exit 2⟩) ∧
        ∀ image, content = .ok image → image.length ≤ 3584 →
          ∃ key m, ∃ count k : Nat, RandomKey.ofSeed seed = .ok key ∧
            (booted s key).load image = .ok m ∧ (count : Int) = s.frames ∧
            (k : Int) = max 1 (s.instructionFrequency / 60) ∧
            let r := m.runFrames count k
            let c := FrameLoop.turns k count (.start m)
            c.toLoop.Shows r.toRun ∧ c.frames.toInt = r.frames ∧
              Tells s level console now m k r report) := by
  intro report
  have hu : s.Usable := Program.plan_usable hplan
  obtain ⟨key, hkey⟩ : ∃ key, RandomKey.ofSeed seed = .ok key := ⟨_, if_pos (by omega)⟩
  have hm := machine_eq hseed hkey console
  obtain ⟨hframes, hsteps, hlt, hfew, hcounted⟩ := counts_of_lt hu hcount
  refine ⟨?_, ?_⟩
  · rintro files rfl rfl
    refine ⟨?_, files.read_eq_nul_iff _⟩
    unfold Program.run
    rw [hplan]
  · rcases hu.logLevel with hempty | ⟨level, hlevel⟩
    · exact .inl ⟨hempty, run_of_noLevel hempty⟩
    · have hl := level_eq hlevel
      obtain ⟨hbad, hunloaded, hloaded⟩ := run_cases hu hm hl (hcounted _) hsavable content now
      have hending := ending_eq_iff hu hm hl (hcounted _) hsavable content now
      refine .inr ⟨level, hlevel, hbad, hending, ?_, ?_⟩
      · intro h
        obtain ⟨hne, h⟩ := hending.mp h
        exact hunloaded hne h
      · intro image himage hlen
        obtain ⟨m, hload, htells⟩ := hloaded image himage hlen
        obtain ⟨hshows, hframesShown⟩ := loop_shows m hlt hfew
        exact ⟨key, m, _, _, hkey, hload, hframes, hsteps, hshows, hframesShown, htells⟩

def briefArguments : List String :=
  ["rom.ch8", "--seed", "1", "--ips", "60", "--frames", "3", "--screenshot", "o.png"]

def briefSettings : Settings where
  romPath := "rom.ch8"
  instructionFrequency := 60
  frames := 3
  seed := some (.value 1)
  screenshot := some (.value "o.png")

def briefMachine : Machine :=
  let m := booted briefSettings ⟨0, 1⟩
  { m with memory := overwrite m.memory programStart [0x60, 0x01] }

/-- A library that saves every picture whose file can be opened. -/
def obliging : PictureLibrary where
  refusal? path _ target :=
    match target with
    | .error e => some (.unopened path e)
    | .ok () => none
  refusal?_of_unopened _ _ _ := nofun

/-- The second of the three frames faults. -/
theorem session_reported_brief :
    let lib : Libraries := ⟨.bounded, obliging⟩
    let now : Readings := ⟨⟨125⟩, .zero false⟩
    let report := run lib briefSettings ⟨false, 0⟩ (.ok [0x60, 0x01]) (.ok ()) now
    report.ending = .exit 1 ∧ (errors report.lines).length = 1 ∧
      ∃ p, report.picture = some p ∧ p.path = "o.png" := by
  intro lib now
  have hplan : Program.plan briefArguments = .session briefSettings := by decide +kernel
  have hsavable : Savable lib.pictures briefSettings (.ok ()) := fun _ _ => rfl
  have hreported := session_reported hplan rfl ⟨by decide, by decide⟩ hsavable (by decide)
    ⟨false, 0⟩ (.ok [0x60, 0x01]) now
  generalize run lib briefSettings ⟨false, 0⟩ (.ok [0x60, 0x01]) (.ok ()) now = report
    at hreported ⊢
  obtain ⟨-, ⟨hempty, -⟩ | ⟨level, hlevel, -, -, -, hloaded⟩⟩ := hreported
  · cases hempty
  have hinfo : level ≠ .critical := by
    rintro rfl
    exact absurd hlevel (by decide)
  obtain ⟨key, m, count, k, hkey, hload, hcount, hk, -, -, htells⟩ := hloaded _ rfl (by decide)
  have hkey' : RandomKey.ofSeed 1 = .ok ⟨0, 1⟩ := rfl
  cases hkey'.symm.trans hkey
  have hload' : (booted briefSettings ⟨0, 1⟩).load [0x60, 0x01] = .ok briefMachine :=
    if_pos (by decide)
  have hm : briefMachine = m := Except.ok.inj (hload'.symm.trans hload)
  subst hm
  have hcount' : count = 3 := Int.ofNat_inj.mp hcount
  have hk' : k = 1 := Int.ofNat_inj.mp hk
  subst hcount' hk'
  have hfault : (briefMachine.runFrames 3 1).outcome = .fault .unknownInstruction := by
    decide +kernel
  refine ⟨?_, ?_, ?_⟩
  · rw [htells.ending, if_neg (by rw [hfault]; nofun)]
  · obtain ⟨q, -, -, herrors⟩ := htells.error _ hfault
    rw [herrors, if_neg hinfo]
    rfl
  · obtain ⟨image, p, -, hpicture, -⟩ := htells.picture "o.png" rfl
    exact ⟨_, hpicture, rfl⟩

/-- An accepted command line that yields no exit code: its path can name no file. -/
theorem session_unreported :
    let w : Program.World :=
      ⟨Files.empty.system, ⟨.bounded, obliging⟩, ⟨false, 0⟩, ⟨⟨0⟩, .zero false⟩⟩
    Program.plan ["a\x00b", "--seed", "1"] =
        .session { romPath := "a\x00b", seed := some (.value 1) } ∧
      w.files.read "a\x00b" = .error .nul ∧
      (Program.run ["a\x00b", "--seed", "1"] w).exitCode? = none := by
  intro w
  have hnul : w.files.read "a\x00b" = .error .nul := (w.files.read_eq_nul_iff _).mpr (by decide)
  have hplan : Program.plan ["a\x00b", "--seed", "1"] =
      .session { romPath := "a\x00b", seed := some (.value 1) } := by decide +kernel
  have hkey : RandomKey.ofSeed 1 = .ok ⟨0, 1⟩ := rfl
  have hinfo : Session.level { romPath := "a\x00b", seed := some (.value 1) } = .ok .info :=
    level_eq rfl
  refine ⟨hplan, hnul, ?_⟩
  unfold Program.run
  simp only [hplan, hnul]
  rw [run_of_unstarted hinfo (start_of_badPath (machine_eq rfl hkey _) .info)]
  rfl

end Session
end Chip8
