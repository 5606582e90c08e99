import Chip8.Image.Encode
import Chip8.Program

/-!
# Command line

The outer layer of the program: it passes the arguments on, reads the program
image, prints what the session logs, draws the progress bar and writes the picture
of the final display.
-/
namespace Chip8
namespace Console

def pathError (e : IO.Error) : PathError :=
  match e with
  | .noFileOrDirectory .. => .notFound
  | .inappropriateType .. => .isDirectory
  | .permissionDenied .. => .other 13 "Permission denied"
  | other => .other 5 (toString other)

def readFile (path : String) : IO (Except PathError (List UInt8)) := do
  if path.toList.contains (Char.ofNat 0) then return .error .nul
  try
    let content ← IO.FS.readBinFile path
    return .ok content.toList
  catch e => return .error (pathError e)

def writeFile (path : String) (content : List UInt8) : IO (Except PathError Unit) := do
  if path.toList.contains (Char.ofNat 0) then return .error .nul
  try
    IO.FS.writeBinFile path (ByteArray.mk content.toArray)
    return .ok ()
  catch e => return .error (pathError e)

/-- The time since `begun`, a reading of the clock in milliseconds. -/
def elapsed (begun : Nat) : IO Log.Elapsed := do
  return ⟨((← IO.monoMsNow) - begun + 5) / 10⟩

/-- Prints lines of the log with the present time. -/
def printLines (begun : Nat) (lines : List Log.Line) : IO Unit := do
  let now ← elapsed begun
  for line in lines do
    IO.println (line.render now)

/-- Draws what the calls do to a progress bar, each state over the one before. -/
def drawBar (calls : List BarCall) : IO Unit := do
  let err ← IO.getStderr
  let mut label := ""
  let mut total : Int := 0
  let mut reached : Int := 0
  for call in calls do
    match call with
    | .start n text _ =>
      label := text
      total := n
      reached := 0
    | .update k =>
      reached := reached + k
      err.putStr ("\r" ++ label ++ ": " ++ toString reached ++ "/" ++ toString total)
    | .close => err.putStrLn ""

/-- The libraries of the program: pictures go by the extension of their file. -/
def libraries : Session.Libraries := ⟨.bounded, .byExtension⟩

/-- Writes the picture that a session asks for, if it can be made. -/
def savePicture (s : Settings) (m : Machine) : IO (Except PathError Unit) := do
  match Session.picture? libraries.pictures s m (.ok ()) with
  | .ok (some p) =>
    match ImageFormat.ofPath p.path with
    | .ok (.ok f) => writeFile p.path (f.encode p.image)
    | _ => return .ok ()
  | _ => return .ok ()

/-- The exit code of a session; the reason is told if it was aborted. -/
def conclude (ending : Session.Ending) : IO UInt32 := do
  match ending with
  | .exit code => return UInt32.ofNat code
  | .aborted reason =>
    IO.eprintln reason.message
    return 1

/-- Runs a session and returns the exit code. -/
def runSession (s : Settings) (level : Log.Level) : IO UInt32 := do
  let begun ← IO.monoMsNow
  let clockSeed : Nat := (← IO.monoNanosNow) % 0x80000000
  let console : Session.Console := ⟨← (← IO.getStdout).isTty, clockSeed⟩
  let (lines, started) := Session.start s level console (← readFile s.romPath)
  printLines begun lines
  match started with
  | .error ending => conclude ending
  | .ok m =>
    let runBegun ← IO.monoNanosNow
    match Session.play libraries.loops s m with
    | .error reason => conclude (.aborted reason)
    | .ok (r, bar) =>
      drawBar bar
      let nanos := (← IO.monoNanosNow) - runBegun
      let rate := if nanos = 0 then Binary64.zero false
        else Binary64.ofRatio false (r.executed * 1000000000) nanos
      let target ← savePicture s r.machine
      let now : Session.Readings := ⟨← elapsed begun, rate⟩
      let (more, _, ending) := Session.finish libraries.pictures s level console r target now
      printLines begun more
      conclude ending

def refuse (message : String) : IO UInt32 := do
  for line in CommandLine.usageLines do
    IO.eprintln line
  IO.eprintln (CommandLine.errorText message)
  return 2

end Console
end Chip8

open Chip8 in
def main (arguments : List String) : IO UInt32 := do
  match Program.plan arguments with
  | .help =>
    for line in CommandLine.helpLines do
      IO.println line
    return 0
  | .refuse message => Console.refuse message
  | .fail e =>
    IO.eprintln e.message
    return 1
  | .session s =>
    match Session.level s with
    | .ok level => Console.runSession s level
    | .error reason => Console.conclude (.aborted reason)
