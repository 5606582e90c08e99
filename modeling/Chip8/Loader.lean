import Chip8.Files
import Chip8.Log.Registry
import Chip8.Machine

/-!
# Loading program images from files

A program image is read whole and copied into memory. The loader tells its
logger before it reads and after it has loaded; a failure leaves the machine as
it was.
-/
namespace Chip8

/-- Why no program was loaded. -/
inductive LoadError where
  | unreadable (path : String) (e : PathError)
  | tooLarge (e : ProgramTooLarge)
  /-- The path cannot be the name of a file. -/
  | badPath (path : String)
  deriving DecidableEq, Repr

def LoadError.message : LoadError → String
  | .unreadable path e => "Cannot read ROM " ++ path ++ ": " ++ e.message path
  | .tooLarge e => e.message
  | .badPath path => PathError.nul.message path

namespace Machine

/-- Loads what reading the file yielded. -/
def loadContent (m : Machine) (path : String) :
    Except PathError (List UInt8) → Except LoadError (Machine × Nat)
  | .error .nul => .error (.badPath path)
  | .error e => .error (.unreadable path e)
  | .ok image =>
    match m.load image with
    | .error e => .error (.tooLarge e)
    | .ok m' => .ok (m', image.length)

/-- `load_rom`: loads a program image with the loader's logger. -/
def loadRom (m : Machine) (log : Log.Logger) (path : String)
    (content : Except PathError (List UInt8)) : List Log.Line × Except LoadError Machine :=
  let before := log.logAt .debug ("Loading " ++ path ++ "...")
  match m.loadContent path content with
  | .error e => (before, .error e)
  | .ok (m', size) =>
    (before ++ log.logAt .info ("Loaded " ++ path ++ " (" ++ toString size ++ " bytes)"), .ok m')

end Machine
end Chip8
