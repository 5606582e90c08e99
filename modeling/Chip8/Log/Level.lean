import Chip8.Text.Case

/-!
# Log levels

Five levels, from DEBUG to CRITICAL. A level is named in any case. A message may
carry any text as its level: it ranks like the level of that name, and like INFO
if there is none.
-/
namespace Chip8
namespace Log

inductive Level where
  | debug | info | warning | error | critical
  deriving DecidableEq, Repr

structure LevelError where
  text : String
  deriving DecidableEq, Repr

namespace Level

def all : List Level := [.debug, .info, .warning, .error, .critical]

def rank : Level → Nat
  | .debug => 0
  | .info => 1
  | .warning => 2
  | .error => 3
  | .critical => 4

def name : Level → String
  | .debug => "DEBUG"
  | .info => "INFO"
  | .warning => "WARNING"
  | .error => "ERROR"
  | .critical => "CRITICAL"

def ofName? (name : String) : Option Level := all.find? (·.name == name)

def ofText? (text : String) : Option Level := ofName? (Text.upper text)

/-- `check_level`: the level that a text names in any case. -/
def ofText (text : String) : Except LevelError Level :=
  match ofText? text with
  | some l => .ok l
  | none => .error ⟨text⟩

/-- The rank of a message whose level is the given text. -/
def rankOf (text : String) : Nat :=
  match ofText? text with
  | some l => l.rank
  | none => Level.info.rank

def colour : Level → String
  | .debug => "\x1b[36m"
  | .info => "\x1b[32m"
  | .warning => "\x1b[33m"
  | .error => "\x1b[31m"
  | .critical => "\x1b[35m"

theorem ofName?_name (l : Level) : ofName? l.name = some l := by cases l <;> decide

end Level

/-- The names of the levels, quoted and in brackets. -/
def levelList : String :=
  "[" ++ String.intercalate ", " (Level.all.map fun l => "'" ++ l.name ++ "'") ++ "]"

def LevelError.message (e : LevelError) : String :=
  s!"Unknown log level '{e.text}'. Available: {levelList}"

end Log
end Chip8
