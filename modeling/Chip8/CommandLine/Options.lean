import Chip8.CommandLine.Flag
import Chip8.Number.Reading
import Chip8.Settings

/-!
# Reading a command line

The arguments are read from the left. Each option takes effect as it is reached,
so a later one wins over an earlier one, and asking for help ends the reading
there. The first plain argument is the path of the program image; more of them,
and options that the program does not have, are refused at the end.

A separator that is attached to an option as its value is taken away like any
other separator, and leaves the option with an empty list (`attach`, `clear`). So
earlier releases of the argument reader have it; later ones keep the two dashes as
the value, which `assign` refuses for every option that does not take any text.
-/
namespace Chip8
namespace CommandLine

structure Options where
  rom : Option String := none
  frames : Given Int := .value 600
  seconds : Option (Given Binary64) := none
  ips : Given Int := .value 700
  wrapSprites : Bool := false
  seed : Option (Given Int) := none
  progress : Bool := false
  screenshot : Option (Given String) := none
  scale : Given Int := .value 8
  colourScheme : Given String := .value "classic"
  logLevel : Given Log.Level := .value .info
  /-- Arguments that no one asked for. -/
  extras : List String := []
  deriving DecidableEq, Repr

inductive Stop where
  | help
  | usage (e : UsageError)
  deriving DecidableEq, Repr

namespace Options

def addExtra (o : Options) (text : String) : Options := { o with extras := o.extras ++ [text] }

def enable (o : Options) : Flag → Options
  | .wrapSprites => { o with wrapSprites := true }
  | .progress => { o with progress := true }
  | _ => o

def integer (flag : Flag) (value : String) : Except Stop Int :=
  match Number.integer? value with
  | some n => .ok n
  | none => .error (.usage (.badInteger flag value))

def assign (o : Options) (flag : Flag) (value : String) : Except Stop Options :=
  match flag with
  | .frames => (integer flag value).map fun n => { o with frames := .value n }
  | .ips => (integer flag value).map fun n => { o with ips := .value n }
  | .seed => (integer flag value).map fun n => { o with seed := some (.value n) }
  | .scale => (integer flag value).map fun n => { o with scale := .value n }
  | .seconds =>
    match Number.binary64? value with
    | some x => .ok { o with seconds := some (.value x) }
    | none => .error (.usage (.badDecimal flag value))
  | .screenshot => .ok { o with screenshot := some (.value value) }
  | .colourScheme => .ok { o with colourScheme := .value value }
  | .logLevel =>
    match Log.Level.ofText? value with
    | some l => .ok { o with logLevel := .value l }
    | none =>
      .error (.usage (.badChoice flag (Text.upper value) (Log.Level.all.map Log.Level.name)))
  | .help | .wrapSprites | .progress => .ok (o.enable flag)

/-- The effect of an option whose value was taken away, as earlier releases do. -/
def clear (o : Options) : Flag → Options
  | .frames => { o with frames := .empty }
  | .ips => { o with ips := .empty }
  | .seed => { o with seed := some .empty }
  | .scale => { o with scale := .empty }
  | .seconds => { o with seconds := some .empty }
  | .screenshot => { o with screenshot := some .empty }
  | .colourScheme => { o with colourScheme := .empty }
  | .logLevel => { o with logLevel := .empty }
  | .help | .wrapSprites | .progress => o

/-- The effect of an option with a value in the same argument. Without the case of the
separator it is what later releases do. -/
def attach (o : Options) (flag : Flag) (value : String) : Except Stop Options :=
  if value = "--" then .ok (o.clear flag) else o.assign flag value

/-- What follows a short option for help in the same argument is read as more
short options, and there are no others. -/
def helpTail : List Char → Stop
  | [] => .help
  | 'h' :: rest => helpTail rest
  | cs => .usage (.unwantedValue .help (String.ofList cs))

/-- The arguments without a separator in front. -/
def dropSeparator : List Token → List Token
  | .separator :: rest => rest
  | ts => ts

theorem length_dropSeparator_le (ts : List Token) : (dropSeparator ts).length ≤ ts.length := by
  unfold dropSeparator
  split
  · simp
  · exact Nat.le_refl _

/-- Reads the arguments from the left. The separator goes with the path of the
program image if it stands right before or right behind it. -/
def readTokens (o : Options) (ts : List Token) : Except Stop Options :=
  match ts with
  | [] => .ok o
  | .plain text :: rest =>
    match o.rom with
    | some _ => readTokens (o.addExtra text) rest
    | none => readTokens { o with rom := some text } (dropSeparator rest)
  | .separator :: rest =>
    match o.rom with
    | none => readTokens o rest
    | some _ => readTokens (o.addExtra "--") rest
  | .unknown text :: rest => readTokens (o.addExtra text) rest
  | .option flag short (some value) :: rest =>
    if flag.takesValue then
      match o.attach flag value with
      | .error stop => .error stop
      | .ok o' => readTokens o' rest
    else if short ∧ value ≠ "" then .error (helpTail value.toList)
    else .error (.usage (.unwantedValue flag value))
  | .option flag _ none :: rest =>
    if flag.takesValue then
      match rest with
      | .plain value :: more =>
        match o.assign flag value with
        | .error stop => .error stop
        | .ok o' => readTokens o' more
      | _ => .error (.usage (.missingValue flag))
    else if flag = .help then .error .help
    else readTokens (o.enable flag) rest
termination_by ts.length
decreasing_by
  all_goals simp only [List.length_cons]
  all_goals first | omega | exact Nat.lt_succ_of_le (length_dropSeparator_le _)

/-- The settings that the options ask for, without a length in seconds. Numbers
and names that were taken away are left at their defaults. -/
def plain (o : Options) : Settings where
  romPath := o.rom.getD ""
  instructionFrequency := o.ips.getD 700
  frames := o.frames.getD 600
  wrapSprites := o.wrapSprites
  seed := o.seed
  logLevel := o.logLevel.map Log.Level.name
  progress := o.progress
  screenshot := o.screenshot
  scale := o.scale.getD 8
  colourScheme := o.colourScheme.getD "classic"

def complaint? (o : Options) : Option SettingsError :=
  (o.ips.complaint? (.listForNumber "<=") Settings.frequencyComplaint?).or <|
    (o.frames.complaint? (.listForNumber "<") Settings.framesComplaint?).or <|
      (o.scale.complaint? (.listForNumber "<") Settings.scaleComplaint?).or <|
        o.colourScheme.complaint? .listForScheme Settings.schemeComplaint?

/-- `config_from_args`: the settings that the options ask for, if they can be used. -/
def settings (o : Options) : Except SettingsError Settings :=
  match o.complaint? with
  | some e => .error e
  | none =>
    match o.seconds with
    | none => .ok o.plain
    | some .empty => .error (.listForNumber "<")
    | some (.value x) => o.plain.withSeconds (.real x)

end Options

/-- Reads a command line. -/
def read (arguments : List String) : Except Stop Options :=
  match tokens arguments with
  | .error e => .error (.usage e)
  | .ok ts =>
    match ({} : Options).readTokens ts with
    | .error stop => .error stop
    | .ok o =>
      if o.rom.isNone then .error (.usage .missingRom)
      else if o.extras.isEmpty then .ok o
      else .error (.usage (.unrecognized o.extras))

def errorText (message : String) : String := "chipvm: error: " ++ message

end CommandLine
end Chip8
