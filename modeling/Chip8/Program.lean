import Chip8.CommandLine.Help
import Chip8.CommandLine.Options
import Chip8.Session

/-!
# The program

What the program does with a command line: it shows the help, refuses the command
line, or runs a session. `Program.run` is the whole program over any files.
-/
namespace Chip8
namespace Program

inductive Plan where
  | help
  /-- The command line is refused with this message. -/
  | refuse (message : String)
  /-- A setting left its range when it was computed. -/
  | fail (e : SettingsError)
  | session (s : Settings)
  deriving DecidableEq, Repr

/-- Reads a command line. A setting that cannot be used is refused like an
argument that cannot be understood. -/
def plan (arguments : List String) : Plan :=
  match CommandLine.read arguments with
  | .error .help => .help
  | .error (.usage e) => .refuse e.message
  | .ok options =>
    match options.settings with
    | .ok s => .session s
    | .error e => if e.isBadValue then .refuse e.message else .fail e

/-- What the program finds when it is started. -/
structure World where
  files : FileSystem
  libraries : Session.Libraries
  console : Session.Console
  now : Session.Readings

inductive Result where
  | help
  | refused (message : String)
  | failed (e : SettingsError)
  | session (r : Session.Report)

/-- The exit code of a program that was not aborted. -/
def Result.exitCode? : Result → Option Nat
  | .help => some 0
  | .refused _ => some 2
  | .failed _ => none
  | .session r =>
    match r.ending with
    | .exit code => some code
    | .aborted _ => none

def target (s : Settings) (files : FileSystem) : Except PathError Unit :=
  match s.screenshot with
  | none | some .empty => .ok ()
  | some (.value path) => files.writable path

/-- `main`: runs the program. -/
def run (arguments : List String) (w : World) : Result :=
  match plan arguments with
  | .help => .help
  | .refuse message => .refused message
  | .fail e => .failed e
  | .session s =>
    .session (Session.run w.libraries s w.console (w.files.read s.romPath) (target s w.files)
      w.now)

end Program
end Chip8
