import Chip8.Image.Palette
import Chip8.Layout
import Chip8.Value

/-!
# Settings of a session

The settings of a session without a screen: what to run, for how long and how
fast, and what to report. `Settings.check` accepts exactly the usable ones and
names the first that is not. The length can also be given in seconds of the
machine's time.

Earlier releases of the argument reader let a setting be given without a value, which
leaves an empty list in its place: `Given` tells the two apart.
-/
namespace Chip8

/-- What a setting was given: a value, or an empty list in place of one. -/
inductive Given (α : Type) where
  | value (a : α)
  | empty
  deriving DecidableEq, Repr

namespace Given

variable {α β : Type}

/-- The value that was given, or another one in place of the empty list. -/
def getD (g : Given α) (default : α) : α :=
  match g with
  | .value a => a
  | .empty => default

def map (f : α → β) : Given α → Given β
  | .value a => .value (f a)
  | .empty => .empty

/-- The complaint of a test of the value; for the empty list it is `missing`. -/
def complaint? {ε : Type} (g : Given α) (missing : ε) (test : α → Option ε) : Option ε :=
  match g with
  | .value a => test a
  | .empty => some missing

/-- What was given as a value of a report. -/
def toValue (f : α → Value) : Given α → Value
  | .value a => f a
  | .empty => .list []

end Given

structure Settings where
  romPath : String
  /-- Instructions per second. -/
  instructionFrequency : Int := 700
  /-- Clock periods per second. -/
  timerFrequency : Int := Chip8.timerFrequency
  frames : Int := 600
  wrapSprites : Bool := false
  /-- The seed of the random bytes; without one the clock gives it. -/
  seed : Option (Given Int) := none
  logLevel : Given String := .value "INFO"
  progress : Bool := false
  /-- The file for a picture of the final display. -/
  screenshot : Option (Given String) := none
  scale : Int := 8
  colourScheme : String := "classic"
  deriving DecidableEq, Repr

/-- A length in seconds: a whole number or a double. -/
inductive Seconds where
  | whole (n : Int)
  | real (x : Binary64)
  deriving DecidableEq, Repr

inductive SettingsError where
  | instructionFrequency (n : Int)
  | timerFrequency (n : Int)
  | frames (n : Int)
  | scale (n : Int)
  | scheme (e : SchemeError)
  | negativeSeconds (s : Seconds)
  /-- The seconds are not a number. -/
  | noSeconds
  /-- The seconds, or the frames in them, are infinitely many. -/
  | infiniteSeconds
  /-- The clock rate is too large to be multiplied with a double. -/
  | hugeTimerFrequency
  /-- An empty list stands where a number is compared by the given sign. -/
  | listForNumber (sign : String)
  /-- An empty list stands where the name of a palette is looked up. -/
  | listForScheme
  deriving DecidableEq, Repr

def Seconds.text : Seconds → String
  | .whole n => toString n
  | .real x => x.text

def SettingsError.message : SettingsError → String
  | .instructionFrequency n => s!"instruction_frequency must be positive, got {n}"
  | .timerFrequency n => s!"timer_frequency must be positive, got {n}"
  | .frames n => s!"frames must be non-negative, got {n}"
  | .scale n => s!"scale must be a positive integer, got {n}"
  | .scheme e => e.message
  | .negativeSeconds s => "seconds must be non-negative, got " ++ s.text
  | .noSeconds => "cannot convert float NaN to integer"
  | .infiniteSeconds => "cannot convert float infinity to integer"
  | .hugeTimerFrequency => "int too large to convert to float"
  | .listForNumber sign =>
    "'" ++ sign ++ "' not supported between instances of 'list' and 'int'"
  | .listForScheme => "unhashable type: 'list'"

/-- Whether the value of a setting is to blame, rather than a number that left
its range in a computation or an empty list where a value belongs. -/
def SettingsError.isBadValue : SettingsError → Bool
  | .infiniteSeconds | .hugeTimerFrequency | .listForNumber _ | .listForScheme => false
  | _ => true

namespace Settings

/-! ## Complaints about single settings -/

def frequencyComplaint? (n : Int) : Option SettingsError :=
  if n ≤ 0 then some (.instructionFrequency n) else none

def timerComplaint? (n : Int) : Option SettingsError :=
  if n ≤ 0 then some (.timerFrequency n) else none

def framesComplaint? (n : Int) : Option SettingsError :=
  if n < 0 then some (.frames n) else none

def scaleComplaint? (n : Int) : Option SettingsError :=
  if n < 1 then some (.scale n) else none

def schemeComplaint? (name : String) : Option SettingsError :=
  match Palette.ofName name with
  | .error e => some (.scheme e)
  | .ok _ => none

/-! ## All settings -/

def complaint? (s : Settings) : Option SettingsError :=
  (frequencyComplaint? s.instructionFrequency).or <|
    (timerComplaint? s.timerFrequency).or <|
      (framesComplaint? s.frames).or <|
        (scaleComplaint? s.scale).or (schemeComplaint? s.colourScheme)

/-- `RunConfig`: the settings, if all of them can be used. -/
def check (s : Settings) : Except SettingsError Settings :=
  match s.complaint? with
  | some e => .error e
  | none => .ok s

/-- Clock periods in the given seconds, the last one if it is complete. -/
def framesIn (s : Settings) : Seconds → Except SettingsError Int
  | .whole n =>
    if n < 0 then .error (.negativeSeconds (.whole n)) else .ok (n * s.timerFrequency)
  | .real x =>
    if x.isNegative then .error (.negativeSeconds (.real x))
    else
      match Binary64.ofInt? s.timerFrequency with
      | none => .error .hugeTimerFrequency
      | some rate =>
        match (x.mul rate).truncate with
        | .ok n => .ok n
        | .error .nan => .error .noSeconds
        | .error .infinite => .error .infiniteSeconds

/-- `from_seconds`: sets the length in seconds. -/
def withSeconds (s : Settings) (seconds : Seconds) : Except SettingsError Settings :=
  match s.framesIn seconds with
  | .ok n => .ok { s with frames := n }
  | .error e => .error e

/-- `instructions_per_frame`: instructions between two clock periods, at least one. -/
def instructionsPerFrame (s : Settings) : Int :=
  max 1 (Int.fdiv s.instructionFrequency s.timerFrequency)

/-- What a setting was given, which may be nothing at all. -/
def optional {α : Type} (f : α → Value) : Option (Given α) → Value
  | none => .none
  | some g => g.toValue f

/-- `to_dict`: the settings by name, in the order in which they are reported. -/
def entries (s : Settings) : List (String × Value) := [
  ("rom_path", .text s.romPath),
  ("instruction_frequency", .int s.instructionFrequency),
  ("timer_frequency", .int s.timerFrequency),
  ("frames", .int s.frames),
  ("wrap_sprites", .bool s.wrapSprites),
  ("seed", optional .int s.seed),
  ("log_level", s.logLevel.toValue .text),
  ("progress", .bool s.progress),
  ("screenshot", optional .text s.screenshot),
  ("scale", .int s.scale),
  ("color_scheme", .text s.colourScheme),
  ("instructions_per_frame", .int s.instructionsPerFrame)]

end Settings
end Chip8
