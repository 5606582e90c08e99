import Chip8.Log.Level
import Chip8.Text.Digit
import Chip8.Text.Quoted

/-!
# Options on the command line

Every argument of a command line is a plain text, the separator `--`, or an
option. A long option may be shortened as long as it stays unambiguous, and may
carry its value behind an equals sign. Negative numbers and texts with a space
are plain, although they start with a dash.
-/
namespace Chip8
namespace CommandLine

inductive Flag where
  | help | frames | seconds | ips | wrapSprites | seed | progress | screenshot | scale
  | colourScheme | logLevel
  deriving DecidableEq, Repr

namespace Flag

/-- The spellings of the options, in the order of the help text. -/
def spellings : List (String × Flag) := [
  ("-h", .help),
  ("--help", .help),
  ("--frames", .frames),
  ("--seconds", .seconds),
  ("--ips", .ips),
  ("--wrap-sprites", .wrapSprites),
  ("--seed", .seed),
  ("--progress", .progress),
  ("--screenshot", .screenshot),
  ("--scale", .scale),
  ("--color-scheme", .colourScheme),
  ("--log-level", .logLevel)]

def ofSpelling? (text : String) : Option Flag := spellings.lookup text

/-- How messages call an option: by all of its spellings. -/
def title (f : Flag) : String :=
  String.intercalate "/" ((spellings.filter fun entry => entry.2 = f).map (·.1))

/-- Whether an option is followed by a value. -/
def takesValue : Flag → Bool
  | .help | .wrapSprites | .progress => false
  | _ => true

end Flag

inductive UsageError where
  | ambiguous (text : String) (candidates : List String)
  | missingValue (flag : Flag)
  | unwantedValue (flag : Flag) (value : String)
  | badInteger (flag : Flag) (value : String)
  | badDecimal (flag : Flag) (value : String)
  | badChoice (flag : Flag) (value : String) (choices : List String)
  | missingRom
  | unrecognized (arguments : List String)
  deriving DecidableEq, Repr

def aboutFlag (flag : Flag) (complaint : String) : String :=
  "argument " ++ flag.title ++ ": " ++ complaint

def UsageError.message : UsageError → String
  | .ambiguous text candidates =>
    "ambiguous option: " ++ text ++ " could match " ++ String.intercalate ", " candidates
  | .missingValue flag => aboutFlag flag "expected one argument"
  | .unwantedValue flag value => aboutFlag flag ("ignored explicit argument " ++ Text.quoted value)
  | .badInteger flag value => aboutFlag flag ("invalid int value: " ++ Text.quoted value)
  | .badDecimal flag value => aboutFlag flag ("invalid float value: " ++ Text.quoted value)
  | .badChoice flag value choices =>
    aboutFlag flag ("invalid choice: " ++ Text.quoted value ++ " (choose from " ++
      String.intercalate ", " (choices.map Text.quoted) ++ ")")
  | .missingRom => "the following arguments are required: rom"
  | .unrecognized arguments => "unrecognized arguments: " ++ String.intercalate " " arguments

/-- An argument of a command line, by its kind. -/
inductive Token where
  | plain (text : String)
  | separator
  /-- An option, and the value that stands in the same argument: behind an equals
  sign, or directly behind a short option. -/
  | option (flag : Flag) (short : Bool) (attached : Option String)
  /-- An option that the program does not have. -/
  | unknown (text : String)
  deriving DecidableEq, Repr

/-- The text as it was given, for arguments that are not options. -/
def Token.text : Token → String
  | .plain t => t
  | .separator => "--"
  | .option flag _ _ => flag.title
  | .unknown t => t

/-- The part before the first equals sign, and the part behind it if there is one. -/
def splitEquals (cs : List Char) : List Char × Option (List Char) :=
  match cs.dropWhile (· != '=') with
  | [] => (cs, none)
  | _ :: rest => (cs.takeWhile (· != '='), some rest)

/-- Digits up to the end; a line feed may follow. -/
def digitsToEnd (cs : List Char) : Bool :=
  match cs.dropWhile Text.isDigit with
  | [] => !cs.isEmpty
  | rest => rest == ['\n'] && rest != cs

/-- A dash and an integer, or a dash and a decimal with digits behind its point. -/
def looksNegative : List Char → Bool
  | '-' :: rest =>
    digitsToEnd rest ||
      match rest.dropWhile Text.isDigit with
      | '.' :: more => digitsToEnd more
      | _ => false
  | _ => false

/-- The options that an argument with a dash in front may stand for, with their
spellings. A shortened long option stands for every option that it begins; a
short option may have a value directly behind it. -/
def candidates (text : String) : List (String × Token) :=
  let cs := text.toList
  let (name, value) := splitEquals cs
  if cs.take 2 == ['-', '-'] then
    let attached := value.map String.ofList
    (Flag.spellings.filter fun entry => name.isPrefixOf entry.1.toList).map fun entry =>
      (entry.1, .option entry.2 false attached)
  else
    (Flag.spellings.filter fun entry => entry.1.toList == cs.take 2).map fun entry =>
      (entry.1, .option entry.2 true (some (String.ofList (cs.drop 2))))

/-- The kind of an argument before the separator. -/
def classify (text : String) : Except UsageError Token :=
  let cs := text.toList
  if cs.head? != some '-' then .ok (.plain text)
  else if text = "--" then .ok .separator
  else
    match Flag.ofSpelling? text with
    | some flag => .ok (.option flag (cs.length == 2) none)
    | none =>
      if cs.length == 1 then .ok (.plain text)
      else
        let (name, value) := splitEquals cs
        match Flag.ofSpelling? (String.ofList name), value with
        | some flag, some v => .ok (.option flag (name.length == 2) (some (String.ofList v)))
        | _, _ =>
          match candidates text with
          | [(_, token)] => .ok token
          | [] =>
            if looksNegative cs || cs.contains ' ' then .ok (.plain text)
            else .ok (.unknown text)
          | several => .error (.ambiguous text (several.map (·.1)))

/-- The kinds of all arguments. Behind the separator every argument is plain. -/
def tokens : List String → Except UsageError (List Token)
  | [] => .ok []
  | text :: rest =>
    match classify text with
    | .error e => .error e
    | .ok .separator => .ok (.separator :: rest.map Token.plain)
    | .ok token =>
      match tokens rest with
      | .error e => .error e
      | .ok more => .ok (token :: more)

end CommandLine
end Chip8
