import Chip8.Diagnosis
import Chip8.Log.Logger
import Chip8.Value

/-!
# The log of a session

A session opens with its settings and closes with its statistics, each between
two rules and at level INFO. Faults are told at level ERROR, and its logger keeps
those that it was told of.
-/
namespace Chip8
namespace Log

def rule : String := String.ofList (List.replicate 60 '=')

/-- `log_session_start`: the messages that open a session. -/
def openingMessages (settings : List (String × Value)) : List String :=
  [rule, "Starting session with configuration:"] ++
    settings.map (fun entry => "  " ++ entry.1 ++ ": " ++ entry.2.toText) ++ [rule]

def statistic : Value → String
  | .real x => x.fixed 4
  | v => v.toText

/-- `log_session_end`: the messages that close a session. -/
def closingMessages (elapsed : Elapsed) (statistics : List (String × Value)) : List String :=
  [rule, s!"Session finished in {elapsed.text}s"] ++
    statistics.map (fun entry => "  " ++ entry.1 ++ ": " ++ statistic entry.2) ++ [rule]

/-- The lines that a session's logger makes of messages at level INFO. -/
def Logger.inform (l : Logger) (messages : List String) : List Line :=
  messages.flatMap (l.logAt .info)

/-- A fault as a session keeps it: how the step ended, and where. -/
structure FaultEntry where
  outcome : Outcome
  pc : Nat
  deriving DecidableEq, Repr

/-- The logger of a session, with the faults it was told of so far. -/
structure SessionLogger extends Logger where
  faults : List FaultEntry
  deriving DecidableEq, Repr

/-- Tells of the outcome with the given number on a machine. It is kept whether or
not the line about it is passed on; a number that no outcome has is an error. -/
def SessionLogger.logFault (l : SessionLogger) (code : Int) (m : Machine) :
    Except Outcome.CodeError (SessionLogger × List Line) :=
  match Outcome.ofCode code with
  | .error e => .error e
  | .ok o =>
    .ok ({ l with faults := l.faults ++ [⟨o, m.pc.toNat⟩] }, l.logAt .error (m.faultLine o))

end Log
end Chip8
