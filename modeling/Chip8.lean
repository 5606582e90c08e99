import Chip8.Main
import Chip8.Proofs.CallStack
import Chip8.Proofs.Draft
import Chip8.Proofs.Flow
import Chip8.Proofs.Frame
import Chip8.Proofs.Frames
import Chip8.Proofs.History
import Chip8.Proofs.OpenBus
import Chip8.Proofs.Peripherals
import Chip8.Proofs.Persistence
import Chip8.Proofs.Reachable
import Chip8.Proofs.Run
import Chip8.Proofs.Step
import Chip8.Proofs.Subroutine
import Chip8.Proofs.Verdict
import Chip8.Proofs.Word
import Chip8.Proofs.FrameTable
import Chip8.Proofs.Pacing
import Chip8.Proofs.RandomStream
import Chip8.Proofs.Repaint
import Chip8.Proofs.Timers
import Chip8.Proofs.Outputs
import Chip8.Proofs.Edges
import Chip8.Proofs.Rendering
import Chip8.Proofs.Progress
import Chip8.Proofs.Settings
import Chip8.Proofs.Log
import Chip8.Proofs.Diagnosis
import Chip8.Proofs.Session
import Chip8.Proofs.Plotting
import Chip8.Proofs.LevelOption
import Chip8.Proofs.Registry
import Chip8.Proofs.Verbosity
import Chip8.Proofs.ExitCode
import Chip8.Proofs.Arithmetic
import Chip8.Proofs.Transfer
import Chip8.Proofs.Landing
import Chip8.Proofs.Redraw
import Chip8.Proofs.Waiting
import Chip8.Proofs.Loading
import Chip8.Proofs.Keypad
import Chip8.Proofs.Decimal
import Chip8.Proofs.Dispatch
import Chip8.Proofs.Encoding
