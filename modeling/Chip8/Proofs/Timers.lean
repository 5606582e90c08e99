import Chip8.Proofs.FrameTable
import Chip8.Proofs.History

/-!
# Timers and the end of a tone

The two timers and the sound flag are a clock of their own: only a clock period,
an acknowledgement and the instructions that set a timer touch them. `Clock` is
what they amount to in unbounded numbers. A clock period counts both timers down
to zero and latches the flag when the sound timer goes from one to zero.

`Latched n es` says that the trace `es` has an `n`-th clock period and no
acknowledgement behind it. A tone of `n` periods is over at the `n`-th one, so
this is when its signal is still there at the end of the trace.

Results:
* `timers_handleAll`, `flag_handleAll`: a clock after a trace.
* `clock_handle`, `clock_handleAll`: an event that sets no timer does to a
  machine's clock what it does to a clock, and so does a trace of them.
* `signalCount_eq`: how often a trace signals.
* `tone_signalled`: all of it.
-/
namespace Chip8

/-- The instructions that set a timer, FX15 and FX18. -/
def Instruction.setsTimer : Instruction → Bool
  | .setDelay _ | .setSound _ => true
  | _ => false

structure Clock where
  delay : Nat
  sound : Nat
  flag : Bool
  deriving DecidableEq, Repr

/-- The trace has an `n`-th clock period, and no acknowledgement comes after it. -/
def Latched (n : Nat) (es : List Event) : Prop :=
  ∃ before after, es = before ++ .tick :: after ∧ before.count .tick + 1 = n ∧
    Event.clearSoundFlag ∉ after

/-! ## Traces -/

theorem not_latched_nil (n : Nat) : ¬ Latched n [] := by
  rintro ⟨before, after, h, -, -⟩
  simp at h

theorem latched_cons {e : Event} (he : e ≠ .tick) (n : Nat) (es : List Event) :
    Latched n (e :: es) ↔ Latched n es := by
  constructor
  · rintro ⟨before, after, h, hn, hafter⟩
    rw [List.cons_eq_append_iff] at h
    rcases h with ⟨-, h⟩ | ⟨rest, rfl, rfl⟩
    · cases h
      exact absurd rfl he
    · rw [List.count_cons_of_ne he] at hn
      exact ⟨rest, after, rfl, hn, hafter⟩
  · rintro ⟨before, after, rfl, hn, hafter⟩
    refine ⟨e :: before, after, rfl, ?_, hafter⟩
    rw [List.count_cons_of_ne he, hn]

/-- The first clock period of a trace leaves one less to wait for. -/
theorem latched_tick (n : Nat) (es : List Event) :
    Latched n (.tick :: es) ↔ (n = 1 ∧ Event.clearSoundFlag ∉ es) ∨ Latched (n - 1) es := by
  constructor
  · rintro ⟨before, after, h, hn, hafter⟩
    rw [List.cons_eq_append_iff] at h
    rcases h with ⟨rfl, h⟩ | ⟨rest, rfl, rfl⟩
    · cases h
      exact .inl ⟨by simpa using hn.symm, hafter⟩
    · rw [List.count_cons_self] at hn
      exact .inr ⟨rest, after, rfl, by omega, hafter⟩
  · rintro (⟨rfl, hes⟩ | ⟨before, after, rfl, hn, hafter⟩)
    · exact ⟨[], es, rfl, by simp, hes⟩
    · refine ⟨.tick :: before, after, rfl, ?_, hafter⟩
      rw [List.count_cons_self]
      omega

theorem Latched.bounds {n : Nat} {es : List Event} (h : Latched n es) :
    1 ≤ n ∧ n ≤ es.count .tick := by
  obtain ⟨before, after, rfl, rfl, -⟩ := h
  rw [List.count_append, List.count_cons_self]
  omega

/-! ## Clocks -/

namespace Clock

def handle (c : Clock) : Event → Clock
  | .tick => ⟨c.delay - 1, c.sound - 1, c.flag || c.sound == 1⟩
  | .clearSoundFlag => { c with flag := false }
  | _ => c

def handleAll (c : Clock) (es : List Event) : Clock := es.foldl handle c

theorem handle_of_ne {e : Event} (ht : e ≠ .tick) (hc : e ≠ .clearSoundFlag) (c : Clock) :
    c.handle e = c := by
  cases e <;> first | rfl | contradiction

theorem timers_handleAll (c : Clock) (es : List Event) :
    (c.handleAll es).delay = c.delay - es.count .tick ∧
      (c.handleAll es).sound = c.sound - es.count .tick := by
  induction es generalizing c with
  | nil => exact ⟨rfl, rfl⟩
  | cons e es ih =>
    obtain ⟨hdelay, hsound⟩ := ih (c.handle e)
    show ((c.handle e).handleAll es).delay = _ ∧ ((c.handle e).handleAll es).sound = _
    rw [hdelay, hsound]
    by_cases he : e = .tick
    · subst he
      rw [List.count_cons_self]
      simp only [handle]
      omega
    · rw [List.count_cons_of_ne he]
      cases e <;> first | exact ⟨rfl, rfl⟩ | contradiction

/-- The flag is set after a trace if it was set and never acknowledged, or if the
tone ended and was not acknowledged since. -/
theorem flag_handleAll (c : Clock) (es : List Event) :
    (c.handleAll es).flag = true ↔
      (c.flag = true ∧ Event.clearSoundFlag ∉ es) ∨ Latched c.sound es := by
  induction es generalizing c with
  | nil => simp [handleAll, not_latched_nil]
  | cons e es ih =>
    show ((c.handle e).handleAll es).flag = true ↔ _
    rw [ih]
    by_cases ht : e = .tick
    · subst ht
      rw [latched_tick]
      simp only [handle, Bool.or_eq_true, beq_iff_eq, List.mem_cons, reduceCtorEq, false_or]
      rw [or_and_right, or_assoc]
    · rw [latched_cons ht]
      by_cases hc : e = .clearSoundFlag
      · subst hc
        simp [handle]
      · rw [handle_of_ne ht hc]
        simp [Ne.symm hc]

end Clock

namespace Machine

/-! ## The clock of a machine -/

def clock (m : Machine) : Clock := ⟨m.delayTimer.toNat, m.soundTimer.toNat, m.soundFlag⟩

theorem clock_tick (m : Machine) : m.tick.clock = m.clock.handle .tick := by
  have hone : (m.soundTimer == 1) = (m.soundTimer.toNat == 1) := by
    rw [Bool.eq_iff_iff, beq_iff_eq, beq_iff_eq, ← UInt8.toNat_inj]
    rfl
  simp only [clock, tick, Clock.handle, toNat_countDown, hone]

/-- An event that sets no timer does to a machine's clock what it does to a clock. -/
theorem clock_handle (m : Machine) {e : Event}
    (h : ∀ i ∈ m.completes? e, i.setsTimer = false) : (m.handle e).clock = m.clock.handle e := by
  rcases m.effect e with ⟨hs, -⟩ | ⟨hm, -⟩ | ⟨i, w, -, hi, -, hperform⟩
  · have hf := m.handle_frame e
    cases e with
    | step => exact absurd rfl hs
    | tick => exact m.clock_tick
    | clearSoundFlag => rfl
    | _ => exact (congrArg clock hf).symm
  · rw [hm]
    rfl
  · have hi' : i.setsTimer = false := h i hi
    have hdelay : (m.handle .step).delayTimer = m.delayTimer :=
      perform_keeps hperform (p := .delayTimer) (by cases i <;> first | rfl | cases hi')
    have hsound : (m.handle .step).soundTimer = m.soundTimer :=
      perform_keeps hperform (p := .soundTimer) (by cases i <;> first | rfl | cases hi')
    have hflag : (m.handle .step).soundFlag = m.soundFlag :=
      perform_keeps hperform (p := .soundFlag) rfl
    simp only [clock, hdelay, hsound, hflag]
    rfl

theorem clock_cons {m : Machine} {e : Event} {es : List Event}
    (h : ∀ i ∈ m.log (e :: es), i.setsTimer = false) :
    (m.handle e).clock = m.clock.handle e ∧ ∀ i ∈ (m.handle e).log es, i.setsTimer = false := by
  rw [log] at h
  refine ⟨m.clock_handle ?_, fun i hi => h i (List.mem_append_right _ hi)⟩
  intro i hi
  exact h i (List.mem_append_left _ (Option.mem_toList.mpr hi))

theorem clock_handleAll (m : Machine) {es : List Event}
    (h : ∀ i ∈ m.log es, i.setsTimer = false) : (m.handleAll es).clock = m.clock.handleAll es := by
  induction es generalizing m with
  | nil => rfl
  | cons e es ih =>
    obtain ⟨hhead, htail⟩ := clock_cons h
    show ((m.handle e).handleAll es).clock = (m.clock.handle e).handleAll es
    rw [ih (m.handle e) htail, hhead]

/-! ## Signals -/

/-- An event signals the end of a tone: the sound flag is set after it even if it
was clear before it. -/
def signals (m : Machine) (e : Event) : Bool := (m.clearSoundFlag.handle e).soundFlag

/-- How many events of a trace signal. -/
def signalCount (m : Machine) : List Event → Nat
  | [] => 0
  | e :: es => (m.signals e).toNat + (m.handle e).signalCount es

/-- Apart from clock periods and acknowledgements nothing touches the sound flag,
instructions that set a timer included. -/
theorem soundFlag_handle (m : Machine) {e : Event} (ht : e ≠ .tick) (hc : e ≠ .clearSoundFlag) :
    (m.handle e).soundFlag = m.soundFlag := by
  rcases m.effect e with ⟨hs, -⟩ | ⟨hm, -⟩ | ⟨i, w, -, -, -, hperform⟩
  · have hf := m.handle_frame e
    cases e with
    | step | tick | clearSoundFlag => contradiction
    | _ => exact (congrArg soundFlag hf).symm
  · rw [hm]
  · exact perform_keeps hperform (p := .soundFlag) rfl

theorem signals_iff (m : Machine) (e : Event) :
    m.signals e = true ↔ e = .tick ∧ m.soundTimer = 1 := by
  unfold signals
  by_cases ht : e = .tick
  · subst ht
    simp [handle, tick, clearSoundFlag]
  · by_cases hc : e = .clearSoundFlag
    · subst hc
      simp [handle, clearSoundFlag]
    · rw [soundFlag_handle _ ht hc]
      simp [ht, clearSoundFlag]

/-- A trace signals once if the tone ends in it, and else not at all. -/
theorem signalCount_eq (m : Machine) {es : List Event}
    (h : ∀ i ∈ m.log es, i.setsTimer = false) :
    m.signalCount es =
      if 1 ≤ m.soundTimer.toNat ∧ m.soundTimer.toNat ≤ es.count .tick then 1 else 0 := by
  induction es generalizing m with
  | nil =>
    rw [signalCount, List.count_nil, if_neg (by omega)]
  | cons e es ih =>
    obtain ⟨hhead, htail⟩ := clock_cons h
    have hsound : (m.handle e).soundTimer.toNat = (m.clock.handle e).sound :=
      congrArg Clock.sound hhead
    have hone : m.soundTimer = 1 ↔ m.soundTimer.toNat = 1 := UInt8.toNat_inj.symm
    have hsignals := m.signals_iff e
    rw [hone] at hsignals
    rw [signalCount, ih (m.handle e) htail]
    by_cases ht : e = .tick
    · subst ht
      simp only [true_and] at hsignals
      have hless : (m.handle .tick).soundTimer.toNat = m.soundTimer.toNat - 1 := hsound
      rw [List.count_cons_self]
      by_cases h1 : m.soundTimer.toNat = 1
      · rw [hsignals.mpr h1, if_neg (by omega), if_pos (by omega)]
        rfl
      · -- the tone goes on, or there is none
        have hoff : m.signals .tick = false := by simpa [h1] using hsignals
        rw [hoff, Bool.toNat_false, Nat.zero_add, hless]
        congr 1
        simp only [eq_iff_iff]
        omega
    · have hoff : m.signals e = false := by simpa [ht] using hsignals
      have hkeep : (m.handle e).soundTimer.toNat = m.soundTimer.toNat := by
        rw [hsound]
        cases e <;> first | rfl | contradiction
      rw [List.count_cons_of_ne ht, hkeep, hoff, Bool.toNat_false, Nat.zero_add]

/-! ## Tones -/

/-- **Tones.** Over a trace in which no instruction sets a timer, both timers
count its clock periods down to zero and stay there. The sound flag is set at the
end exactly if it was set at the start and never acknowledged, or if the tone
ended and was not acknowledged since. The trace signals once if the tone ends in
it, and else not at all; a signal stays until it is acknowledged. -/
theorem tone_signalled (m : Machine) {es : List Event}
    (h : ∀ i ∈ m.log es, i.setsTimer = false) :
    let t := m.handleAll es
    let ticks := es.count .tick
    ((t.delayTimer.toNat : Int) = max 0 ((m.delayTimer.toNat : Int) - ticks) ∧
      (t.soundTimer.toNat : Int) = max 0 ((m.soundTimer.toNat : Int) - ticks)) ∧
    (t.soundFlag = true ↔ (m.soundFlag = true ∧ Event.clearSoundFlag ∉ es) ∨
      ((1 ≤ m.soundTimer.toNat ∧ m.soundTimer.toNat ≤ ticks) ∧
        Latched m.soundTimer.toNat es)) ∧
    m.signalCount es =
      (if 1 ≤ m.soundTimer.toNat ∧ m.soundTimer.toNat ≤ ticks then 1 else 0) ∧
    (∀ before after, es = before ++ after → (m.handleAll before).soundFlag = true →
      Event.clearSoundFlag ∉ after → t.soundFlag = true) ∧
    ((m.delayTimer = 0 → t.delayTimer = 0) ∧ (m.soundTimer = 0 → t.soundTimer = 0)) := by
  intro t ticks
  have hclock : t.clock = m.clock.handleAll es := m.clock_handleAll h
  obtain ⟨hdelay, hsound⟩ := m.clock.timers_handleAll es
  rw [← hclock] at hdelay hsound
  have hdelay' : t.delayTimer.toNat = m.delayTimer.toNat - ticks := hdelay
  have hsound' : t.soundTimer.toNat = m.soundTimer.toNat - ticks := hsound
  refine ⟨⟨by omega, by omega⟩, ?_, m.signalCount_eq h, ?_, ?_, ?_⟩
  · have hflag := m.clock.flag_handleAll es
    rw [← hclock] at hflag
    have hbounds : Latched m.soundTimer.toNat es →
        1 ≤ m.soundTimer.toNat ∧ m.soundTimer.toNat ≤ ticks := Latched.bounds
    rw [and_iff_right_of_imp hbounds]
    exact hflag
  · rintro before after rfl hset hafter
    rw [log_append] at h
    have hrest := (m.handleAll before).clock_handleAll fun i hi => h i (List.mem_append_right _ hi)
    have hflag := (m.handleAll before).clock.flag_handleAll after
    rw [← hrest, ← handleAll_append] at hflag
    exact hflag.mpr (.inl ⟨hset, hafter⟩)
  · intro h0
    rw [h0] at hdelay'
    exact UInt8.toNat_inj.mp (by simpa using hdelay')
  · intro h0
    rw [h0] at hsound'
    exact UInt8.toNat_inj.mp (by simpa using hsound')

/-- A program that reads the delay timer, during a tone of two periods. -/
def chiming : Machine :=
  { blank ⟨0, 0⟩ .clip with
    memory := overwrite (Vector.replicate 4096 0) 0x200 [0xF3, 0x07, 0x12, 0x00]
    delayTimer := 1
    soundTimer := 2 }

/-- The acknowledgement comes between the two clock periods, so the signal stays. -/
theorem tone_signalled_chiming :
    let es : List Event := [.step, .tick, .press 3, .clearSoundFlag, .step, .tick, .step, .tick]
    (chiming.handleAll es).delayTimer.toNat = 0 ∧ (chiming.handleAll es).soundFlag = true ∧
      chiming.signalCount es = 1 := by
  intro es
  have hlog : chiming.log es = [.getDelay 3, .jump 0x200, .getDelay 3] := by decide +kernel
  have hfree : ∀ i ∈ chiming.log es, i.setsTimer = false := by
    rw [hlog]
    decide
  obtain ⟨⟨hdelay, -⟩, hflag, hcount, -, -⟩ := tone_signalled chiming hfree
  have hlatched : Latched chiming.soundTimer.toNat es :=
    ⟨[.step, .tick, .press 3, .clearSoundFlag, .step], [.step, .tick], rfl, by decide, by decide⟩
  have hdelay' : ((chiming.handleAll es).delayTimer.toNat : Int) = 0 := hdelay
  exact ⟨by omega, hflag.mpr (.inr ⟨by decide, hlatched⟩), hcount⟩

end Machine
end Chip8
