import Chip8.Log.Level
import Chip8.Text.Padded

/-!
# Loggers

A logger has a name and a level, and passes on the messages whose level ranks at
least as high. What it passes on is a `Line`: the parts of the printed line but
for the time, which is known only when the line is printed.
-/
namespace Chip8
namespace Log

/-- A time span in hundredths of a second. -/
structure Elapsed where
  hundredths : Nat
  deriving DecidableEq, Repr

def Elapsed.text (e : Elapsed) : String :=
  s!"{e.hundredths / 100}." ++ Text.padLeft 2 '0' (toString (e.hundredths % 100))

structure Logger where
  name : String
  level : Level
  /-- The level of a line is coloured. -/
  coloured : Bool
  /-- A line starts with the time since the logger was made. -/
  stamped : Bool
  deriving DecidableEq, Repr

structure Line where
  stamped : Bool
  coloured : Bool
  level : String
  name : String
  message : String
  deriving DecidableEq, Repr

def resetColour : String := "\x1b[0m"

/-- The colour of a message whose level is the given text; RESET is not a level
but has a colour of its own, which is none. -/
def colourOf (level : String) : String :=
  match Level.ofText? level with
  | some l => l.colour
  | none => if Text.upper level = "RESET" then resetColour else ""

/-- The level of a line in brackets, right-aligned in eight columns. -/
def Line.levelText (l : Line) : String :=
  let plain := "[" ++ Text.padLeft 8 ' ' l.level ++ "]"
  if l.coloured then colourOf l.level ++ plain ++ resetColour else plain

/-- `_format_message`: the line as it is printed at the given time. -/
def Line.render (l : Line) (now : Elapsed) : String :=
  (if l.stamped then "[" ++ Text.padLeft 8 ' ' now.text ++ "s]" else "") ++
    l.levelText ++ "[" ++ l.name ++ "] " ++ l.message

namespace Logger

/-- `_should_log`: whether a message with this level is passed on. -/
def passes (l : Logger) (level : String) : Bool := l.level.rank ≤ Level.rankOf level

/-- The lines that a message makes: one, or none if its level ranks too low. -/
def log (l : Logger) (level message : String) : List Line :=
  if l.passes level then [⟨l.stamped, l.coloured, level, l.name, message⟩] else []

/-- A message of one of the five levels. -/
def logAt (l : Logger) (level : Level) (message : String) : List Line := l.log level.name message

def setLevel (l : Logger) (level : String) : Except LevelError Logger :=
  match Level.ofText level with
  | .ok v => .ok { l with level := v }
  | .error e => .error e

end Logger
end Log
end Chip8
