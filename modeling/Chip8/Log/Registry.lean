import Chip8.Log.Logger

/-!
# Shared loggers

A registry has at most one logger for each name, made when the name is first
asked for. Loggers start at the default level, WARNING; setting the level of all
loggers also sets the default, so that later loggers start there too.
-/
namespace Chip8
namespace Log

/-- The shared loggers: their levels by name, in the order in which they were
made, and the level of those to come. -/
structure Registry where
  defaultLevel : Level
  levels : List (String × Level)
  deriving DecidableEq, Repr

namespace Registry

def empty : Registry := ⟨.warning, []⟩

def level? (r : Registry) (name : String) : Option Level := r.levels.lookup name

def register (r : Registry) (name : String) : Registry :=
  match r.level? name with
  | some _ => r
  | none => { r with levels := r.levels ++ [(name, r.defaultLevel)] }

/-- The level at which the logger with this name is, or would be made. -/
def levelOf (r : Registry) (name : String) : Level := (r.level? name).getD r.defaultLevel

/-- `get_logger`: the logger with this name. Shared loggers stamp their lines. -/
def logger (r : Registry) (name : String) (coloured : Bool) : Logger :=
  ⟨name, r.levelOf name, coloured, true⟩

/-- Every logger, made or to come, at one level. -/
def setAllTo (r : Registry) (v : Level) : Registry := ⟨v, r.levels.map fun entry => (entry.1, v)⟩

/-- `set_log_level`: sets the level of every logger, made or to come. -/
def setAll (r : Registry) (level : String) : Except LevelError Registry :=
  match Level.ofText level with
  | .error e => .error e
  | .ok v => .ok (r.setAllTo v)

/-- `set_level`: sets the level of one logger. The logger is made even if the level is
unknown. -/
def setOne (r : Registry) (name level : String) : Registry × Except LevelError Unit :=
  let r' := r.register name
  match Level.ofText level with
  | .error e => (r', .error e)
  | .ok v =>
    ({ r' with levels := r'.levels.map fun entry =>
        if entry.1 = name then (entry.1, v) else entry }, .ok ())

end Registry

def loaderName : String := "chipvm.emulator"

/-- The registry at the start: only the loader's logger was made. -/
def Registry.initial : Registry := Registry.empty.register loaderName

end Log
end Chip8
