import Chip8.Value

/-!
# Progress bars

A loop over the indices 0, 1, … is accompanied by a progress bar: it is opened at
index 0, advanced at every positive multiple of the rate, and after the last
index advanced by what is left and closed. What happens to the bar is a list of
calls; drawing it is not the library's business.

`Meter.tracked` turns the body of a loop into one that also makes the calls. The
calls depend on the indices alone.
-/
namespace Chip8

/-- A call on a progress bar. -/
inductive BarCall where
  | start (total : Int) (label : String) (options : List (String × Value))
  | update (steps : Int)
  | close

/-- The plan of a progress bar. -/
structure Meter where
  /-- How many indices the loop is expected to have. -/
  total : Int
  /-- Indices between two updates. -/
  rate : Int
  label : String
  options : List (String × Value)

/-- The calls made so far, and whether the bar was opened. -/
structure BarLog where
  isOpen : Bool
  calls : List BarCall

namespace Meter

/-- Options that would interfere with the updates. -/
def reserved : List String := ["total", "mininterval", "maxinterval", "miniters"]

/-- The rate without a wish: a twentieth of the loop, from 1 to 50. -/
def defaultRate (total : Int) : Int := max 1 (min (Int.fdiv total 20) 50)

/-- `build_tqdm_progress_bar`: a bar over `total` indices. A rate that is wished for is
kept between 1 and the total. -/
def plan (total : Int) (rate : Option Int) (label : Option String)
    (options : List (String × Value)) : Meter where
  total
  rate := match rate with
    | none => defaultRate total
    | some r => max 1 (min r total)
  label := label.getD ("Running (" ++ Text.grouped total ++ " frames)")
  options := options.filter fun entry => !reserved.contains entry.1

/-- What the last update adds: the indices since the last multiple of the rate
that was passed. -/
def remainder (m : Meter) : Int := m.total - m.rate * Int.fdiv (m.total - 1) m.rate

/-- The calls before the body at an index. -/
def before (m : Meter) (log : BarLog) (index : Int) : BarLog :=
  let log := if index = 0 then ⟨true, log.calls ++ [.start m.total m.label m.options]⟩ else log
  if 0 < index ∧ Int.fmod index m.rate = 0 ∧ log.isOpen then
    { log with calls := log.calls ++ [.update m.rate] }
  else log

/-- The calls after the body at an index. -/
def after (m : Meter) (log : BarLog) (index : Int) : BarLog :=
  if index = m.total - 1 ∧ log.isOpen then
    { log with calls := log.calls ++ [.update m.remainder, .close] }
  else log

/-- The body of a loop with the calls on the bar. -/
def tracked {σ α : Type} (m : Meter) (index : α → Int) (body : σ → α → σ) (s : σ × BarLog) (a : α) :
    σ × BarLog :=
  let log := m.before s.2 (index a)
  (body s.1 a, m.after log (index a))

/-- `scan_with_progress`: runs a body over a list of items with the calls on the bar. -/
def scan {σ α : Type} (m : Meter) (index : α → Int) (body : σ → α → σ) (init : σ) (items : List α) :
    σ × List BarCall :=
  let (s, log) := items.foldl (m.tracked index body) (init, ⟨false, []⟩)
  (s, log.calls)

end Meter
end Chip8
