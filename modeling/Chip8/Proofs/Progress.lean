import Mathlib.Data.Rat.Floor
import Mathlib.Tactic.Linarith
import Mathlib.Tactic.Qify
import Chip8.Proofs.Frames
import Chip8.Session

/-!
# Loops under a progress bar

The calls on the bar are made beside the body of a loop: they read the indices
and nothing else, and the body does not see them. Frames that run under a bar
are therefore the frames that run without one; those that a fault leaves out are
passed over one by one.

Before index `k` the bar has passed the multiples of its rate below `k`, one update
each (`made`). The last index adds what is left over, so that the updates come to the
total whether or not the rate divides it (`Accounts`).

Results:
* `Meter.scan_fst`: the calls leave what the body computes alone.
* `Meter.foldl_tracked_snd`: the body leaves the calls alone.
* `Meter.touch_made`, `Meter.foldl_touch`: the calls at one index, and up to an index.
* `Meter.accounts_foldl`, `Meter.accounts_plan`: the calls over all indices account for them.
* `runFramesTracked_fst`: frames under a bar are frames.
* `Meter.bar_accounts`: all of it.
-/
namespace Chip8

namespace Meter

variable {σ α : Type}

theorem foldl_tracked_fst (m : Meter) (index : α → Int) (body : σ → α → σ) (items : List α)
    (s : σ) (log : BarLog) :
    (items.foldl (m.tracked index body) (s, log)).1 = items.foldl body s := by
  induction items generalizing s log with
  | nil => rfl
  | cons a items ih => exact ih (body s a) _

theorem scan_fst (m : Meter) (index : α → Int) (body : σ → α → σ) (init : σ) (items : List α) :
    (m.scan index body init items).1 = items.foldl body init :=
  m.foldl_tracked_fst index body items init ⟨false, []⟩

/-! ## The calls -/

def indices (n : Nat) : List Int := (List.range n).map fun k : Nat => (k : Int)

theorem indices_succ (n : Nat) : indices (n + 1) = indices n ++ [(n : Int)] := by
  rw [indices, List.range_succ, List.map_append]
  rfl

/-- The calls at one index, without the body between them. -/
def touch (m : Meter) (log : BarLog) (index : Int) : BarLog := m.after (m.before log index) index

theorem foldl_tracked_snd (m : Meter) (index : α → Int) (body : σ → α → σ) (items : List α)
    (s : σ) (log : BarLog) :
    (items.foldl (m.tracked index body) (s, log)).2 = (items.map index).foldl m.touch log := by
  induction items generalizing s log with
  | nil => rfl
  | cons a items ih => exact ih (body s a) _

theorem scan_snd (m : Meter) (index : α → Int) (body : σ → α → σ) (init : σ) (items : List α) :
    (m.scan index body init items).2 = ((items.map index).foldl m.touch ⟨false, []⟩).calls :=
  congrArg BarLog.calls (m.foldl_tracked_snd index body items init ⟨false, []⟩)

variable {m : Meter} {n p : Nat}

/-- The bar at index `k`: open, with an update for each positive multiple of the rate so
far. -/
def reached (m : Meter) (p k : Nat) : BarLog :=
  ⟨true, .start m.total m.label m.options :: List.replicate (k / p) (.update p)⟩

/-- The calls that were made before index `k`. -/
def made (m : Meter) (p : Nat) : Nat → BarLog
  | 0 => ⟨false, []⟩
  | k + 1 => m.reached p k

theorem before_made (hp : m.rate = p) (k : Nat) : m.before (m.made p k) k = m.reached p k := by
  cases k with
  | zero => simp [before, made, reached]
  | succ k =>
    have hpos : (0 : Int) < (k + 1 : Nat) := by omega
    have hmod : Int.fmod (k + 1 : Nat) p = 0 ↔ p ∣ k + 1 := by
      rw [Int.fmod_eq_emod_of_nonneg _ (by omega), ← Int.natCast_mod, Int.natCast_eq_zero,
        Nat.dvd_iff_mod_eq_zero]
    simp only [before, made, hp, hmod, if_neg (Int.ne_of_gt hpos), hpos, true_and]
    by_cases hdvd : p ∣ k + 1
    · rw [if_pos ⟨hdvd, rfl⟩, reached, reached, Nat.succ_div_of_dvd hdvd, List.replicate_succ']
      rfl
    · rw [if_neg fun h => hdvd h.1, reached, reached, Nat.succ_div_of_not_dvd hdvd]

/-- Before the last index nothing happens after the body. -/
theorem touch_made (hp : m.rate = p) (hn : m.total = n) {k : Nat} (hk : k + 1 < n) :
    m.touch (m.made p k) k = m.made p (k + 1) := by
  have hlast : ¬ (k : Int) = n - 1 := by omega
  rw [touch, before_made hp, after, hn, if_neg fun h => hlast h.1]
  rfl

theorem foldl_touch (hp : m.rate = p) (hn : m.total = n) {k : Nat} (hk : k < n) :
    (indices k).foldl m.touch ⟨false, []⟩ = m.made p k := by
  induction k with
  | zero => rfl
  | succ k ih =>
    rw [indices_succ, List.foldl_append, ih (by omega)]
    exact touch_made hp hn hk

/-- The bar is opened for its total, advanced by positive steps that come to the total,
one for each beginning of a rate, and closed. -/
def Accounts (m : Meter) (calls : List BarCall) : Prop :=
  ∃ steps : List Int,
    calls = .start m.total m.label m.options :: (steps.map .update ++ [.close]) ∧
      (∀ k ∈ steps, 0 < k) ∧ steps.sum = m.total ∧
      (steps.length : Int) = ⌈(m.total : ℚ) / m.rate⌉

theorem remainder_eq (hp : m.rate = p) (hn : m.total = (n + 1 : Nat)) :
    m.remainder = (n + 1 - p * (n / p) : Nat) := by
  have hle : p * (n / p) ≤ n := Nat.mul_div_le n p
  have hdiv : Int.fdiv ((n + 1 : Nat) - 1) p = (n / p : Nat) := by
    rw [Int.ofNat_fdiv]
    congr 1
    omega
  rw [remainder, hp, hn, hdiv]
  omega

theorem length_steps (hpos : 0 < p) (n : Nat) :
    ((n / p + 1 : Nat) : Int) = ⌈((n + 1 : Nat) : ℚ) / p⌉ := by
  have hlow : p * (n / p) ≤ n := Nat.mul_div_le n p
  have hhigh : n + 1 ≤ p * (n / p + 1) := Nat.lt_mul_div_succ n hpos
  generalize n / p = q at hlow hhigh
  qify at hpos hlow hhigh
  symm
  rw [Int.ceil_eq_iff, lt_div_iff₀ hpos, div_le_iff₀ hpos]
  push_cast
  constructor <;> linarith

/-- The calls over all indices account for them. -/
theorem accounts_foldl (hp : m.rate = p) (hpos : 0 < p) (hn : m.total = n) (h0 : 0 < n) :
    m.Accounts ((indices n).foldl m.touch ⟨false, []⟩).calls := by
  obtain ⟨k, rfl⟩ : ∃ k, n = k + 1 := ⟨n - 1, by omega⟩
  have hle : p * (k / p) ≤ k := Nat.mul_div_le k p
  refine ⟨List.replicate (k / p) (p : Int) ++ [m.remainder], ?_, ?_, ?_, ?_⟩
  · have hlast : (k : Int) = (k + 1 : Nat) - 1 := by omega
    rw [indices_succ, List.foldl_append, foldl_touch hp hn (Nat.lt_succ_self k)]
    simp only [List.foldl_cons, List.foldl_nil, touch, before_made hp, after, hn]
    rw [if_pos ⟨hlast, rfl⟩]
    simp [reached, hn]
  · intro step hstep
    rcases List.mem_append.mp hstep with h | h
    · rw [List.eq_of_mem_replicate h]
      omega
    · rw [List.mem_singleton.mp h, remainder_eq hp hn]
      omega
  · rw [List.sum_append, List.sum_replicate, List.sum_singleton, remainder_eq hp hn, hn]
    rw [nsmul_eq_mul, Int.mul_comm]
    omega
  · rw [List.length_append, List.length_replicate, List.length_singleton, hp, hn]
    exact length_steps hpos k

/-- The rate of a plan lies between 1 and the total. -/
theorem rate_plan (hn : 0 < n) (wish : Option Int) (label : Option String)
    (options : List (String × Value)) :
    1 ≤ (plan n wish label options).rate ∧ (plan n wish label options).rate ≤ n := by
  cases wish with
  | none =>
    have hdiv : Int.fdiv n 20 = (n / 20 : Nat) := (Int.ofNat_fdiv n 20).symm
    simp only [plan, defaultRate, hdiv]
    omega
  | some r =>
    simp only [plan]
    omega

theorem accounts_plan (hn : 0 < n) (wish : Option Int) (label : Option String) (index : α → Int)
    (body : σ → α → σ) (init : σ) {items : List α} (hindex : items.map index = indices n) :
    (plan n wish label []).Accounts ((plan n wish label []).scan index body init items).2 := by
  obtain ⟨hlow, -⟩ := rate_plan hn wish label []
  obtain ⟨p, hp⟩ := Int.eq_ofNat_of_zero_le (Int.le_trans Int.one_nonneg hlow)
  rw [scan_snd, hindex]
  exact accounts_foldl hp (by omega) rfl hn

end Meter

namespace Machine

theorem foldl_advance_of_fault (k : Nat) {r : FrameRun} {f : Fault} (h : r.outcome = .fault f)
    (items : List Nat) : items.foldl (fun r _ => advance k r) r = r := by
  induction items with
  | nil => rfl
  | cons i items ih =>
    have hr : advance k r = r := by simp only [advance, h]
    rw [List.foldl_cons, hr, ih]

/-- The loop over the frames, from any point without a fault. -/
theorem foldl_advance (k : Nat) (items : List Nat) (m : Machine) (executed frames : Nat) :
    items.foldl (fun r _ => advance k r) ⟨⟨m, .ok, executed⟩, frames⟩ =
      framesFrom k executed frames items.length m := by
  induction items generalizing m executed frames with
  | nil => rfl
  | cons i items ih =>
    rw [List.foldl_cons, List.length_cons, framesFrom]
    cases h : (m.runFrame k).outcome with
    | ok =>
      have hstep : advance k ⟨⟨m, .ok, executed⟩, frames⟩ =
          ⟨⟨(m.runFrame k).machine, .ok, executed + (m.runFrame k).executed⟩, frames + 1⟩ := by
        simp only [advance, h]
      rw [hstep, ih]
    | fault f =>
      have hstep : advance k ⟨⟨m, .ok, executed⟩, frames⟩ =
          ⟨⟨(m.runFrame k).machine, .fault f, executed + (m.runFrame k).executed⟩, frames⟩ := by
        simp only [advance, h, Nat.add_zero]
      rw [hstep, foldl_advance_of_fault k rfl items]

/-- Frames under a bar are frames. -/
theorem runFramesTracked_fst (m : Machine) (count k : Nat) :
    (m.runFramesTracked count k).1 = m.runFrames count k := by
  rw [runFramesTracked, Meter.scan_fst, foldl_advance, List.length_range, runFrames]

end Machine

theorem FrameLoop.foldl_turn (k : Nat) (items : List Nat) (c : FrameLoop) :
    items.foldl (fun c _ => FrameLoop.turn k c) c = FrameLoop.turns k items.length c := by
  induction items generalizing c with
  | nil => rfl
  | cons i items ih => exact ih (FrameLoop.turn k c)

namespace Meter

/-- **Progress.** The bar of a loop over `n` indices, at whatever rate is wished for, does
not change what any body computes, and its calls account for the indices. So it is with
frames: under a bar they are the frames without one, also with the counts that the loop
carries, and the bar comes to their number even if a fault leaves some out. Without frames
there is no bar. -/
theorem bar_accounts {n : Nat} (hn : 0 < n) (wish : Option Int) (label : Option String) :
    (1 ≤ (plan n wish label []).rate ∧ (plan n wish label []).rate ≤ n) ∧
    (∀ {σ α : Type} (index : α → Int) (body : σ → α → σ) (init : σ) (items : List α),
      items.map index = indices n →
        ((plan n wish label []).scan index body init items).1 = items.foldl body init ∧
          (plan n wish label []).Accounts
            ((plan n wish label []).scan index body init items).2) ∧
    (∀ (m : Machine) (k : Nat),
      (m.runFramesTracked n k).1 = m.runFrames n k ∧
        (plan n none none []).Accounts (m.runFramesTracked n k).2 ∧
        ((plan n none none []).scan (fun i : Nat => (i : Int)) (fun c _ => FrameLoop.turn k c)
          (.start m) (List.range n)).1 = FrameLoop.turns k n (.start m)) ∧
    ∀ (m : Machine) (k : Nat), m.runFramesTracked 0 k = (m.runFrames 0 k, []) := by
  refine ⟨rate_plan hn wish label [], ?_, ?_, fun m k => rfl⟩
  · intro σ α index body init items hindex
    exact ⟨scan_fst .., accounts_plan hn wish label index body init hindex⟩
  · intro m k
    refine ⟨m.runFramesTracked_fst n k, accounts_plan hn none none _ _ _ rfl, ?_⟩
    rw [scan_fst, FrameLoop.foldl_turn, List.length_range]

/-- A rate that does not divide the total, and frames of which the second faults. -/
theorem bar_accounts_uneven :
    let bar := plan 10 (some 3) none []
    let index := fun i : Nat => (i : Int)
    (0 < 10 ∧ (List.range 10).map index = indices 10 ∧ bar.rate = 3) ∧
    ((bar.scan index (fun sum i => sum + i) 0 (List.range 10)).1 = 45 ∧
      bar.Accounts (bar.scan index (fun sum i => sum + i) 0 (List.range 10)).2) ∧
    (Machine.stranded.runFramesTracked 10 1).1.frames = 1 ∧
      (plan 10 none none []).Accounts (Machine.stranded.runFramesTracked 10 1).2 := by
  intro bar index
  obtain ⟨-, hscan, hframes, -⟩ := bar_accounts (n := 10) (by decide) (some 3) none
  obtain ⟨hsum, hcalls⟩ := hscan index (fun sum i => sum + i) 0 (List.range 10) rfl
  obtain ⟨hsame, hbar, -⟩ := hframes Machine.stranded 1
  have hone : (Machine.stranded.runFrames 10 1).frames = 1 := by decide +kernel
  exact ⟨⟨by decide, rfl, by decide⟩, ⟨hsum, hcalls⟩, by rw [hsame, hone], hbar⟩

end Meter

namespace Session

/-- The loops take the counts of a session. -/
def Counted (loops : Loops) (s : Settings) : Prop :=
  loops.refusal? s.frames.toNat s.instructionsPerFrame.toNat = none

/-- The bar does not change what a session runs. -/
theorem play_of_counted {loops : Loops} {s : Settings} (h : Counted loops s) (m : Machine) :
    ∃ bar, play loops s m =
      .ok (m.runFrames s.frames.toNat s.instructionsPerFrame.toNat, bar) := by
  have htaken : loops.refusal? s.frames.toNat s.instructionsPerFrame.toNat = none := h
  simp only [play, htaken]
  cases s.progress with
  | true => exact ⟨_, congrArg Except.ok (Prod.ext (m.runFramesTracked_fst _ _) rfl)⟩
  | false => exact ⟨_, rfl⟩

theorem play_of_not_counted {loops : Loops} {s : Settings} (h : ¬ Counted loops s) (m : Machine) :
    ∃ reason, play loops s m = .error reason := by
  obtain ⟨text, htext⟩ := Option.ne_none_iff_exists'.mp h
  refine ⟨.counts text, ?_⟩
  simp only [play, htext]

end Session
end Chip8
