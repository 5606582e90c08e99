import Chip8.Proofs.Session

/-!
# Command lines without an exit code

A program that comes to its end has an exit code: 0 for help, 2 for a command line
that is refused, and the one of its session. The settings are checked in a fixed
order, and the first that fails its check decides: a value out of its range is
refused like an argument that cannot be understood, and an empty list in place of a
value, which only earlier releases of the argument reader store, ends the program
without an exit code. So do the values that pass the checks and cannot be used: a
length in seconds whose frames are infinitely many, an empty list as a level or a
seed, a seed of more than 64 bits, counts that the loops refuse, and a picture that
its library does not save. `Stranded` lists them.

Results:
* `withSeconds_cases`: the frames in a length in seconds.
* `settings_cases`: what the checks make of the options.
* `picture?_isOk_iff`: when a picture is made.
* `code_le_two`, `aborted_iff`: how a session ends.
* `exitCode_of_options`: the exit code, by what the options say.
-/
namespace Chip8

/-! ## Lengths in seconds -/

namespace Binary64

theorem ofRatio_ne_nan (negative : Bool) (num den : Nat) : ofRatio negative num den ≠ .nan := by
  unfold ofRatio
  split
  · nofun
  · simp only
    split <;> split <;> nofun

theorem ofScaled_ne_nan (negative : Bool) (m : Nat) (e : Int) : ofScaled negative m e ≠ .nan := by
  unfold ofScaled
  split <;> exact ofRatio_ne_nan _ _ _

def clockRate : Binary64 := .finite false (60 <<< 47) (-47)

theorem ofInt?_sixty : ofInt? 60 = some clockRate := by decide +kernel

theorem mul_clockRate_eq_nan_iff (x : Binary64) : x.mul clockRate = .nan ↔ x = .nan := by
  cases x with
  | nan => simp [mul]
  | infinite s => simp [mul, clockRate]
  | finite s m e => simp [mul, clockRate, ofScaled_ne_nan]

/-- A number that can be a length: it is one, and not negative. -/
def isLength (x : Binary64) : Bool := !x.isNegative && x != .nan

theorem isLength_of_mul {x : Binary64} (hnonneg : x.isNegative = false)
    (h : x.mul clockRate ≠ .nan) : x.isLength = true := by
  have hnumber : x ≠ .nan := fun hx => h ((mul_clockRate_eq_nan_iff x).mpr hx)
  simp [isLength, hnonneg, hnumber]

end Binary64

namespace Settings

def lasting (s : Settings) (n : Int) : Settings := { s with frames := n }

/-- The frames in a length, given as a double. -/
def framesOf (x : Binary64) : Except SettingsError Int :=
  match x.truncate with
  | .ok n => .ok n
  | .error .nan => .error .noSeconds
  | .error .infinite => .error .infiniteSeconds

/-- A length in seconds is refused if it is none. Otherwise it has its frames,
unless they are infinitely many. -/
theorem withSeconds_cases {s : Settings} (hrate : s.timerFrequency = 60) (x : Binary64) :
    (x.isLength = false ∧ ∃ e, s.withSeconds (.real x) = .error e ∧ e.isBadValue = true) ∨
    (x.isLength = true ∧ x.mul .clockRate = .infinite false ∧
      s.withSeconds (.real x) = .error .infiniteSeconds) ∨
    (x.isLength = true ∧ x.mul .clockRate ≠ .infinite false ∧
      ∃ n, s.withSeconds (.real x) = .ok (s.lasting n)) := by
  unfold withSeconds
  by_cases hneg : x.isNegative = true
  · have hlength : x.isLength = false := by simp [Binary64.isLength, hneg]
    have hframes : s.framesIn (.real x) = .error (.negativeSeconds (.real x)) := if_pos hneg
    exact .inl ⟨hlength, _, by rw [hframes], rfl⟩
  have hnonneg : x.isNegative = false := Bool.not_eq_true _ ▸ hneg
  have hprod : (x.mul .clockRate).isNegative = false := Binary64.isNegative_mul hnonneg rfl
  have hframes : s.framesIn (.real x) = framesOf (x.mul .clockRate) := by
    unfold framesIn
    simp only [hneg, Bool.false_eq_true, if_false, hrate, Binary64.ofInt?_sixty]
    rfl
  rw [hframes]
  -- the product decides
  cases hx : x.mul .clockRate with
  | nan =>
    rw [Binary64.mul_clockRate_eq_nan_iff] at hx
    subst hx
    exact .inl ⟨rfl, .noSeconds, rfl, rfl⟩
  | infinite negative =>
    rw [hx] at hprod
    cases (hprod : negative = false)
    exact .inr (.inl ⟨Binary64.isLength_of_mul hnonneg (by rw [hx]; nofun), rfl, rfl⟩)
  | finite negative m e =>
    exact .inr (.inr ⟨Binary64.isLength_of_mul hnonneg (by rw [hx]; nofun), nofun, _, rfl⟩)

end Settings

/-! ## Checks -/

/-- What becomes of a setting that an option gives. -/
inductive Fitness where
  | fit
  /-- The value is out of its range. -/
  | unfit
  /-- The value was taken away. -/
  | missing
  deriving DecidableEq, Repr

namespace Fitness

def andThen : Fitness → Fitness → Fitness
  | .fit, f => f
  | f, _ => f

/-- What a complaint about a setting, if there is one, says of it. -/
def ofComplaint : Option SettingsError → Fitness
  | none => .fit
  | some e => if e.isBadValue then .unfit else .missing

theorem ofComplaint_or (a b : Option SettingsError) :
    ofComplaint (a.or b) = (ofComplaint a).andThen (ofComplaint b) := by
  cases a with
  | none => rfl
  | some e => cases h : e.isBadValue <;> simp [ofComplaint, h, andThen]

/-- A value that is refused outside of its range is fit within it. -/
theorem ofComplaint_ite {p q : Prop} [Decidable p] [Decidable q] {e : SettingsError}
    (he : e.isBadValue = true) (h : q ↔ ¬ p) :
    ofComplaint (if q then some e else none) = if decide p then .fit else .unfit := by
  by_cases hp : p
  · rw [if_neg (fun hq => h.mp hq hp), if_pos (decide_eq_true hp)]
    rfl
  · rw [if_pos (h.mpr hp), if_neg (by simpa using hp)]
    simp only [ofComplaint, he, if_true]

end Fitness

/-- The value that was given is fit if it passes the check. -/
def Given.fitness {α : Type} (g : Given α) (check : α → Bool) : Fitness :=
  match g with
  | .empty => .missing
  | .value a => if check a then .fit else .unfit

/-- A complaint about a value blames it, and one about an empty list does not. -/
theorem Given.ofComplaint_complaint? {α : Type} {missing : SettingsError}
    {test : α → Option SettingsError} {check : α → Bool} (hmissing : missing.isBadValue = false)
    (htest : ∀ a, Fitness.ofComplaint (test a) = if check a then .fit else .unfit)
    (g : Given α) : Fitness.ofComplaint (g.complaint? missing test) = g.fitness check := by
  cases g with
  | empty => simp [complaint?, fitness, Fitness.ofComplaint, hmissing]
  | value a => exact htest a

namespace CommandLine.Options

/-- What the checks make of the numbers and the name of the palette. -/
def numbersFitness (o : Options) : Fitness :=
  (o.ips.fitness fun n => 0 < n).andThen <|
    (o.frames.fitness fun n => 0 ≤ n).andThen <|
      (o.scale.fitness fun n => 1 ≤ n).andThen <|
        o.colourScheme.fitness fun name => (Palette.ofName name).isOk

/-- What the checks make of the length in seconds. -/
def secondsFitness (o : Options) : Fitness :=
  match o.seconds with
  | none => .fit
  | some g => g.fitness Binary64.isLength

/-- What the checks make of the options. -/
def fitness (o : Options) : Fitness := o.numbersFitness.andThen o.secondsFitness

/-- The frames in the given seconds are too many for a double. -/
def Overflows (o : Options) : Prop :=
  ∃ x, o.seconds = some (.value x) ∧ x.mul .clockRate = .infinite false

theorem ofComplaint_eq (o : Options) : Fitness.ofComplaint o.complaint? = o.numbersFitness := by
  have hips (n : Int) : Fitness.ofComplaint (Settings.frequencyComplaint? n) = _ :=
    Fitness.ofComplaint_ite (p := 0 < n) rfl Int.not_lt.symm
  have hframes (n : Int) : Fitness.ofComplaint (Settings.framesComplaint? n) = _ :=
    Fitness.ofComplaint_ite (p := 0 ≤ n) rfl Int.not_le.symm
  have hscale (n : Int) : Fitness.ofComplaint (Settings.scaleComplaint? n) = _ :=
    Fitness.ofComplaint_ite (p := 1 ≤ n) rfl Int.not_le.symm
  have hscheme (name : String) : Fitness.ofComplaint (Settings.schemeComplaint? name) =
      if (Palette.ofName name).isOk then .fit else .unfit := by
    unfold Settings.schemeComplaint?
    cases Palette.ofName name <;> rfl
  unfold complaint? numbersFitness
  rw [Fitness.ofComplaint_or, Fitness.ofComplaint_or, Fitness.ofComplaint_or,
    Given.ofComplaint_complaint? rfl hips, Given.ofComplaint_complaint? rfl hframes,
    Given.ofComplaint_complaint? rfl hscale, Given.ofComplaint_complaint? rfl hscheme]

/-- The settings that the options ask for: a value is refused, a value is missing,
the frames in the seconds are too many, or the settings can be used. -/
theorem settings_cases (o : Options) :
    (o.fitness = .unfit ∧ ∃ e, o.settings = .error e ∧ e.isBadValue = true) ∨
    (o.fitness = .missing ∧ ∃ e, o.settings = .error e ∧ e.isBadValue = false) ∨
    (o.fitness = .fit ∧ o.Overflows ∧ o.settings = .error .infiniteSeconds) ∨
    (o.fitness = .fit ∧ ¬ o.Overflows ∧ ∃ n, o.settings = .ok (o.plain.lasting n)) := by
  have hnumbers := o.ofComplaint_eq
  unfold fitness settings Overflows secondsFitness
  cases hc : o.complaint? with
  | some e =>
    rw [hc] at hnumbers
    rw [← hnumbers]
    cases he : e.isBadValue with
    | true => exact .inl ⟨by simp [Fitness.ofComplaint, he, Fitness.andThen], e, rfl, he⟩
    | false => exact .inr (.inl ⟨by simp [Fitness.ofComplaint, he, Fitness.andThen], e, rfl, he⟩)
  | none =>
    rw [hc] at hnumbers
    rw [← hnumbers]
    simp only [Fitness.ofComplaint, Fitness.andThen]
    cases o.seconds with
    | none => exact .inr (.inr (.inr ⟨rfl, nofun, _, rfl⟩))
    | some g =>
      cases g with
      | empty => exact .inr (.inl ⟨rfl, _, rfl, rfl⟩)
      | value x =>
        rcases Settings.withSeconds_cases (s := o.plain) rfl x with
          ⟨hx, hbad⟩ | ⟨hx, hover, hs⟩ | ⟨hx, hover, hs⟩
        · have hunfit : (Given.value x).fitness Binary64.isLength = .unfit := by
            simp [Given.fitness, hx]
          exact .inl ⟨hunfit, hbad⟩
        · exact .inr (.inr (.inl ⟨if_pos hx, ⟨x, rfl, hover⟩, hs⟩))
        · refine .inr (.inr (.inr ⟨if_pos hx, ?_, hs⟩))
          rintro ⟨y, hy, hover'⟩
          cases hy
          exact hover hover'

end CommandLine.Options

/-! ## Sessions -/

namespace Session

variable {s : Settings} {level : Log.Level} {console : Console} {m : Machine}
  {target : Except PathError Unit} {lib : Libraries} {pictures : PictureLibrary}

/-- A picture is made, or none is asked for, exactly if the library saves what is asked for. -/
theorem picture?_isOk_iff (hu : s.Usable) (m : Machine) (target : Except PathError Unit) :
    (∃ po, picture? pictures s m target = .ok po) ↔ Savable pictures s target := by
  constructor
  · rintro ⟨po, h⟩ path hw
    obtain ⟨image, p, -, -, hpicture⟩ := picture?_of_wanted hu hw pictures m target
    rw [hpicture] at h
    cases hr : pictures.refusal? path s.scale target with
    | none => rfl
    | some e =>
      rw [hr] at h
      cases h
  · intro h
    obtain ⟨po, hpo, -⟩ := picture?_of_savable hu h m
    exact ⟨po, hpo⟩

/-- The seed, if the settings give one, is a number of 64 bits. -/
def Seedable (s : Settings) : Prop :=
  ∀ g, s.seed = some g → ∃ n, g = .value n ∧ -2 ^ 63 ≤ n ∧ n < 2 ^ 63

theorem machine_isOk_iff (hclock : 0 ≤ console.clockSeed ∧ console.clockSeed < 2 ^ 31) :
    (∃ m, machine s console = .ok m) ↔ Seedable s := by
  have hofSeed (n : Int) :
      (∃ key, RandomKey.ofSeed n = .ok key) ↔ -2 ^ 63 ≤ n ∧ n < 2 ^ 63 := by
    unfold RandomKey.ofSeed
    split
    · simp; omega
    · simp; omega
  have hmachine (n : Int) (hs : s.seed.getD (.value console.clockSeed) = .value n) :
      (∃ m, machine s console = .ok m) ↔ -2 ^ 63 ≤ n ∧ n < 2 ^ 63 := by
    rw [← hofSeed]
    simp only [machine, hs]
    cases RandomKey.ofSeed n <;> simp
  cases hs : s.seed with
  | none =>
    rw [hmachine console.clockSeed (by rw [hs]; rfl)]
    simp only [Seedable, hs, reduceCtorEq, false_implies, implies_true, iff_true]
    omega
  | some g =>
    cases g with
    | empty => simp [machine, Seedable, hs]
    | value n =>
      rw [hmachine n (by rw [hs]; rfl)]
      simp [Seedable, hs]

/-- A session that did not start was aborted, or has exit code 2. -/
theorem code_of_unstarted {content : Except PathError (List UInt8)} {code : Nat}
    (h : (start s level console content).2 = .error (.exit code)) : code = 2 := by
  unfold start at h
  cases hm : machine s console with
  | error reason =>
    rw [hm] at h
    cases h
  | ok m =>
    simp only [hm, Machine.loadRom] at h
    cases hload : m.loadContent s.romPath content with
    | ok loaded =>
      rw [hload] at h
      cases h
    | error e =>
      rw [hload] at h
      cases e <;> cases h <;> rfl

theorem code_of_finished {r : FrameRun} {now : Readings} {code : Nat}
    (h : (finish pictures s level console r target now).2.2 = .exit code) : code ≤ 1 := by
  cases hp : picture? pictures s r.machine target with
  | error reason =>
    unfold finish at h
    rw [hp] at h
    cases h
  | ok po =>
    have hend : (finish pictures s level console r target now).2 = _ := finish_snd hp
    rw [hend] at h
    cases h
    split <;> omega

/-- The exit codes of a session. -/
theorem code_le_two {content : Except PathError (List UInt8)} {now : Readings} {code : Nat}
    (h : (run lib s console content target now).ending = .exit code) : code ≤ 2 := by
  cases hl : Session.level s with
  | error reason =>
    simp only [run, hl] at h
    cases h
  | ok level =>
    cases hs : (start s level console content).2 with
    | error ending =>
      rw [run_of_unstarted hl hs] at h
      cases (h : ending = .exit code)
      exact Nat.le_of_eq (code_of_unstarted hs)
    | ok m =>
      cases hplay : play lib.loops s m with
      | error reason =>
        rw [run_of_unplayed hl hs hplay] at h
        cases h
      | ok played =>
        rw [run_of_played hl hs hplay] at h
        exact Nat.le_succ_of_le (code_of_finished h)

theorem start_of_noMachine {reason : Abort} (h : machine s console = .error reason)
    (level : Log.Level) (content : Except PathError (List UInt8)) :
    (start s level console content).2 = .error (.aborted reason) := by
  simp only [start, h]

theorem finish_aborted_iff (hu : s.Usable) (level : Log.Level) (console : Console) (r : FrameRun)
    (target : Except PathError Unit) (now : Readings) :
    (∃ reason, (finish pictures s level console r target now).2.2 = .aborted reason) ↔
      ¬ Savable pictures s target := by
  rw [← picture?_isOk_iff hu r.machine]
  cases hp : picture? pictures s r.machine target with
  | error reason =>
    have hend : (finish pictures s level console r target now).2.2 = .aborted reason := by
      unfold finish
      rw [hp]
    simp [hend]
  | ok po =>
    have hend : (finish pictures s level console r target now).2 = _ := finish_snd hp
    simp [hend]

/-- A session whose program can be loaded is aborted for want of a level, a seed, loops
that take its counts or a library that saves its picture. -/
theorem aborted_iff (hu : s.Usable)
    (hclock : 0 ≤ console.clockSeed ∧ console.clockSeed < 2 ^ 31) {image : List UInt8}
    (hlen : image.length ≤ 3584) (target : Except PathError Unit) (now : Readings) :
    (∃ reason, (run lib s console (.ok image) target now).ending = .aborted reason) ↔
      s.logLevel = .empty ∨ ¬ Seedable s ∨ ¬ Counted lib.loops s ∨
        ¬ Savable lib.pictures s target := by
  rcases hu.logLevel with hempty | ⟨level, hlevel⟩
  · rw [run_of_noLevel hempty]
    simp [hempty]
  have hl := level_eq hlevel
  rw [← machine_isOk_iff hclock]
  cases hm : machine s console with
  | error reason =>
    have hrun : run lib s console (.ok image) target now = _ :=
      run_of_unstarted hl (start_of_noMachine hm level _)
    simp [hrun]
  | ok m =>
    obtain ⟨t, -, hstart⟩ := start_of_loadable hm hlen level
    by_cases hc : Counted lib.loops s
    · obtain ⟨bar, hplay⟩ := play_of_counted hc t
      have hrun : run lib s console (.ok image) target now = _ := run_of_played hl hstart hplay
      rw [hrun]
      simp [hlevel, hc, finish_aborted_iff hu]
    · obtain ⟨reason, hplay⟩ := play_of_not_counted hc t
      have hrun : run lib s console (.ok image) target now = _ := run_of_unplayed hl hstart hplay
      rw [hrun]
      simp [hc]

end Session

namespace Program

open CommandLine

/-- What was accepted and still ends the program without an exit code. -/
inductive Stranded (o : Options) (w : World) : Prop
  /-- The value of a setting that is checked was taken away. -/
  | missing (h : o.fitness = .missing)
  | seconds (h : o.fitness = .fit) (hover : o.Overflows)
  | level (h : o.fitness = .fit) (hlevel : o.logLevel = .empty)
  | seed (h : o.fitness = .fit) (hseed : ¬ Session.Seedable o.plain)
  /-- The loops refuse the counts, as they do from 2 ^ 31 frames on. -/
  | counts (s : Settings) (h : o.settings = .ok s)
      (hcounts : ¬ Session.Counted w.libraries.loops s)
  | picture (h : o.fitness = .fit)
      (hpicture : ¬ Session.Savable w.libraries.pictures o.plain (target o.plain w.files))

variable {arguments : List String} {o : Options}

theorem code_le_two {w : World} {code : Nat} (h : (run arguments w).exitCode? = some code) :
    code ≤ 2 := by
  unfold run at h
  cases hp : plan arguments with
  | help =>
    rw [hp] at h
    cases h
    decide
  | refuse message =>
    rw [hp] at h
    cases h
    decide
  | fail e =>
    rw [hp] at h
    cases h
  | session s =>
    rw [hp] at h
    simp only [Result.exitCode?] at h
    split at h
    · rename_i code' hending
      cases h
      exact Session.code_le_two hending
    · cases h

theorem exitCode?_session (r : Session.Report) :
    (Result.session r).exitCode? = none ↔ ∃ reason, r.ending = .aborted reason := by
  obtain ⟨lines, bar, picture, ending⟩ := r
  cases ending <;> simp [Result.exitCode?]

theorem run_of_unusable {e : SettingsError} (hread : read arguments = .ok o)
    (h : o.settings = .error e) (w : World) :
    run arguments w = if e.isBadValue then .refused e.message else .failed e := by
  unfold run
  rw [plan_of_unusable hread h]
  cases e.isBadValue <;> rfl

/-- Accepted options are refused exactly if a value is out of its range. -/
theorem refused_iff (hread : read arguments = .ok o) (w : World) (message : String) :
    run arguments w = .refused message ↔
      o.fitness = .unfit ∧ ∃ e, o.settings = .error e ∧ message = e.message := by
  rcases o.settings_cases with ⟨hfit, e, he, hbad⟩ | ⟨hfit, e, he, hbad⟩ | ⟨hfit, -, he⟩ |
    ⟨hfit, -, n, hs⟩
  · rw [run_of_unusable hread he, hbad, hfit, he]
    simp [eq_comm]
  · rw [run_of_unusable hread he, hbad, hfit]
    simp
  · rw [run_of_unusable hread he, hfit]
    simp [SettingsError.isBadValue]
  · rw [run_of_session (plan_of_settings hread hs), hfit]
    simp

/-- With a program that can be loaded, accepted options yield no exit code exactly
if they are stranded. -/
theorem exitCode?_eq_none_iff (hread : read arguments = .ok o) {w : World}
    (hclock : 0 ≤ w.console.clockSeed ∧ w.console.clockSeed < 2 ^ 31) {image : List UInt8}
    (himage : w.files.read o.plain.romPath = .ok image) (hlen : image.length ≤ 3584) :
    (run arguments w).exitCode? = none ↔ Stranded o w := by
  rcases o.settings_cases with ⟨hfit, e, he, hbad⟩ | ⟨hfit, e, he, hbad⟩ | ⟨hfit, hover, he⟩ |
    ⟨hfit, hover, n, hs⟩
  · have hrun : (run arguments w).exitCode? = some 2 := by
      rw [run_of_unusable hread he, hbad]
      rfl
    have hno : ¬ Stranded o w := by
      rintro (h | ⟨h, -⟩ | ⟨h, -⟩ | ⟨h, -⟩ | ⟨s, h, -⟩ | ⟨h, -⟩)
      case counts =>
        rw [he] at h
        cases h
      all_goals
        rw [hfit] at h
        cases h
    simp [hrun, hno]
  · rw [run_of_unusable hread he, hbad]
    exact ⟨fun _ => .missing hfit, fun _ => rfl⟩
  · rw [run_of_unusable hread he]
    exact ⟨fun _ => .seconds hfit hover, fun _ => rfl⟩
  · have hplan := plan_of_settings hread hs
    have habort : _ ↔ o.logLevel.map Log.Level.name = .empty ∨ ¬ Session.Seedable o.plain ∨
        ¬ Session.Counted w.libraries.loops (o.plain.lasting n) ∨
        ¬ Session.Savable w.libraries.pictures o.plain (target o.plain w.files) :=
      Session.aborted_iff (plan_usable hplan) hclock hlen (target o.plain w.files) w.now
    have hlevel : o.logLevel.map Log.Level.name = .empty ↔ o.logLevel = .empty := by
      cases o.logLevel <;> simp [Given.map]
    have hrun : run arguments w = .session (Session.run w.libraries (o.plain.lasting n) w.console
        (.ok image) (target o.plain w.files) w.now) := by
      rw [run_of_session hplan, ← himage]
      rfl
    rw [hlevel] at habort
    rw [hrun, exitCode?_session, habort]
    constructor
    · rintro (h | h | h | h)
      · exact .level hfit h
      · exact .seed hfit h
      · exact .counts _ hs h
      · exact .picture hfit h
    · rintro (h | ⟨-, h⟩ | ⟨-, h⟩ | ⟨-, h⟩ | ⟨s, h, hcounts⟩ | ⟨-, h⟩)
      · rw [hfit] at h
        cases h
      · exact absurd h hover
      · exact .inl h
      · exact .inr (.inl h)
      · rw [hs] at h
        cases h
        exact .inr (.inr (.inl hcounts))
      · exact .inr (.inr (.inr h))

/-- More frames than the loops can count strand the options. -/
theorem stranded_of_frames {s : Settings} (h : o.settings = .ok s) (hframes : 2 ^ 31 ≤ s.frames)
    (w : World) : Stranded o w := by
  refine .counts s h (w.libraries.loops.refuses _ _ ?_)
  omega

/-- So does a file that cannot be opened for the picture. -/
theorem stranded_of_unopened {path : String} {e : PathError} (h : o.fitness = .fit)
    (hwanted : Session.wanted? o.plain = some path) {w : World}
    (htarget : target o.plain w.files = .error e) : Stranded o w := by
  refine .picture h fun hsavable => ?_
  have hsaved := hsavable path hwanted
  rw [htarget] at hsaved
  exact w.libraries.pictures.refusal?_of_unopened _ _ _ hsaved

/-- **Exit codes.** Whatever the command line, the files and the libraries, an exit code
is 0, 1 or 2. Help is shown where it is asked for, and arguments that cannot be
understood are refused. Options that can be understood are refused exactly if a value is
out of its range and no value before it is missing, with the complaint about that value.
If their program can be read and fits into memory, they yield no exit code exactly if
they are stranded; options with 2 ^ 31 frames or more always are. -/
theorem exitCode_of_options (arguments : List String) (w : World)
    (hclock : 0 ≤ w.console.clockSeed ∧ w.console.clockSeed < 2 ^ 31) :
    let result := run arguments w
    (∀ code, result.exitCode? = some code → code ≤ 2) ∧
    (read arguments = .error .help → result = .help) ∧
    (∀ e, read arguments = .error (.usage e) → result = .refused e.message) ∧
    ∀ o, read arguments = .ok o →
      (∀ message, result = .refused message ↔
        o.fitness = .unfit ∧ ∃ e, o.settings = .error e ∧ message = e.message) ∧
      (∀ image, w.files.read o.plain.romPath = .ok image → image.length ≤ 3584 →
        (result.exitCode? = none ↔ Stranded o w)) ∧
      ∀ s, o.settings = .ok s → 2 ^ 31 ≤ s.frames → Stranded o w := by
  intro result
  refine ⟨fun _ => code_le_two, fun hhelp => ?_, fun e husage => ?_, fun o hread => ⟨?_, ?_, ?_⟩⟩
  · simp only [result, run, plan, hhelp]
  · simp only [result, run, plan, husage]
  · exact refused_iff hread w
  · intro image himage hlen
    exact exitCode?_eq_none_iff hread hclock himage hlen
  · exact fun s hs hframes => stranded_of_frames hs hframes w

/-- Files of which only `p` is there, a program that jumps to itself. No file can be
opened for writing. -/
def loopFiles : FileSystem where
  read path :=
    if Char.ofNat 0 ∈ path.toList then .error .nul
    else if path = "p" then .ok [0x12, 0x00] else .error .notFound
  writable _ := .error .notFound
  read_eq_nul_iff path := by
    split
    · next h => exact iff_of_true rfl h
    · next h =>
      refine iff_of_false ?_ h
      split <;> nofun

def loopWorld : World :=
  ⟨loopFiles, ⟨.bounded, Session.obliging⟩, ⟨false, 0⟩, ⟨⟨0⟩, .zero false⟩⟩

theorem read_loopWorld : loopWorld.files.read "p" = .ok [0x12, 0x00] := by decide

theorem read_eq_ok {arguments : List String} {o : Options}
    (h : (CommandLine.read arguments).toOption = some o) : CommandLine.read arguments = .ok o := by
  cases hr : CommandLine.read arguments with
  | error e =>
    rw [hr] at h
    cases h
  | ok p =>
    rw [hr] at h
    cases h
    rfl

/-- No instructions are refused, and infinitely many seconds yield no exit code. -/
theorem exitCode_of_options_loopWorld :
    run ["p", "--ips", "0"] loopWorld =
        .refused "instruction_frequency must be positive, got 0" ∧
      (run ["p", "--seconds", "inf"] loopWorld).exitCode? = none := by
  have hclock : 0 ≤ loopWorld.console.clockSeed ∧ loopWorld.console.clockSeed < 2 ^ 31 := by
    decide
  constructor
  · obtain ⟨-, -, -, hoptions⟩ := exitCode_of_options ["p", "--ips", "0"] loopWorld hclock
    have hread : read ["p", "--ips", "0"] = .ok { rom := some "p", ips := .value 0 } :=
      read_eq_ok (by decide +kernel)
    exact ((hoptions _ hread).1 _).mpr ⟨by decide +kernel, _, rfl, by decide⟩
  · obtain ⟨-, -, -, hoptions⟩ := exitCode_of_options ["p", "--seconds", "inf"] loopWorld hclock
    have hread : read ["p", "--seconds", "inf"] =
        .ok { rom := some "p", seconds := some (.value (.infinite false)) } :=
      read_eq_ok (by decide +kernel)
    have hstranded := (hoptions _ hread).2.1 _ read_loopWorld (by decide)
    exact hstranded.mpr (.seconds (by decide +kernel) ⟨_, rfl, rfl⟩)

/-- Command lines that are accepted or are to be refused, and yield no exit code: lengths
of infinitely many frames, a seed of 64 bits, more frames than can be counted, and a
picture in a directory that is not there. -/
theorem values_without_exitCode :
    loopWorld.files.read "p" = .ok [0x12, 0x00] ∧
      (run ["p", "--seconds", "inf"] loopWorld).exitCode? = none ∧
      (run ["p", "--seconds", "1e308"] loopWorld).exitCode? = none ∧
      (run ["p", "--seed", "9223372036854775808"] loopWorld).exitCode? = none ∧
      (run ["p", "--frames", "100000000000000000000"] loopWorld).exitCode? = none ∧
      (run ["p", "--screenshot", "nodir/final.png"] loopWorld).exitCode? = none := by
  have hfail {arguments : List String} {e : SettingsError} (h : plan arguments = .fail e) :
      (run arguments loopWorld).exitCode? = none := by
    unfold run
    rw [h]
    rfl
  have hstranded {arguments : List String} {o : Options} (hread : read arguments = .ok o)
      (hrom : o.plain.romPath = "p") (h : Stranded o loopWorld) :
      (run arguments loopWorld).exitCode? = none :=
    (exitCode?_eq_none_iff hread (by decide) (hrom ▸ read_loopWorld) (by decide)).mpr h
  refine ⟨read_loopWorld, ?_, ?_, ?_, ?_, ?_⟩
  · exact hfail (e := .infiniteSeconds) (by decide +kernel)
  · exact hfail (e := .infiniteSeconds) (by decide +kernel)
  · have hread : read ["p", "--seed", "9223372036854775808"] =
        .ok { rom := some "p", seed := some (.value 9223372036854775808) } :=
      read_eq_ok (by decide +kernel)
    refine hstranded hread rfl (.seed (by decide +kernel) fun hseedable => ?_)
    obtain ⟨n, hn, -, hlt⟩ := hseedable _ rfl
    cases hn
    exact absurd hlt (by decide)
  · have hread : read ["p", "--frames", "100000000000000000000"] =
        .ok { rom := some "p", frames := .value 100000000000000000000 } :=
      read_eq_ok (by decide +kernel)
    exact hstranded hread rfl (stranded_of_frames rfl (by decide) _)
  · have hread : read ["p", "--screenshot", "nodir/final.png"] =
        .ok { rom := some "p", screenshot := some (.value "nodir/final.png") } :=
      read_eq_ok (by decide +kernel)
    exact hstranded hread rfl (stranded_of_unopened (by decide +kernel) rfl rfl)

end Program
end Chip8
