import Chip8.Program

/-!
# Settings that a command line can give

A command line that is accepted yields settings in which every number is in its
range and the palette has a name. A length in seconds comes out as a number of
frames that is not negative, because a product of doubles has the sign that it
should have. The level of the log is one of the five, or the empty list that is
left when its value was taken away.

Results:
* `Binary64.isNegative_mul`, `Binary64.truncate_nonneg`: doubles that are not
  negative stay so.
* `framesIn_nonneg`: neither are the frames in a number of seconds.
* `plan_usable`: the settings of an accepted command line are usable.
-/
namespace Chip8

/-! ## Signs of doubles -/

namespace Binary64

theorem negative_of_rounded {negative : Bool} {m : Nat} {e limit : Int}
    (h : (if limit < e then infinite negative else finite negative m e).isNegative = true) :
    negative = true := by
  split at h
  · exact h
  · exact (Bool.and_eq_true_iff.mp h).1

theorem isNegative_ofRatio {negative : Bool} {num den : Nat}
    (h : (ofRatio negative num den).isNegative = true) : negative = true ∧ num ≠ 0 := by
  unfold ofRatio at h
  split at h
  · simp [zero, isNegative] at h
  · rename_i hnum
    refine ⟨?_, hnum⟩
    simp only at h
    split at h <;> exact negative_of_rounded h

theorem isNegative_ofScaled {negative : Bool} {m : Nat} {e : Int}
    (h : (ofScaled negative m e).isNegative = true) : negative = true ∧ m ≠ 0 := by
  unfold ofScaled at h
  split at h
  · obtain ⟨hnegative, hshift⟩ := isNegative_ofRatio h
    refine ⟨hnegative, ?_⟩
    rintro rfl
    exact hshift (Nat.zero_shiftLeft _)
  · exact isNegative_ofRatio h

theorem isNegative_ofInt? {n : Int} {x : Binary64} (hn : 0 ≤ n) (h : ofInt? n = some x) :
    x.isNegative = false := by
  have hsign : decide (n < 0) = false := decide_eq_false (by omega)
  unfold ofInt? at h
  rw [hsign] at h
  split at h
  · cases h
  · cases h
    rw [← Bool.not_eq_true]
    intro hx
    cases (isNegative_ofRatio hx).1

/-- A product of two doubles that are not negative is not negative. -/
theorem isNegative_mul {x y : Binary64} (hx : x.isNegative = false) (hy : y.isNegative = false) :
    (x.mul y).isNegative = false := by
  cases x with
  | nan => rfl
  | infinite s =>
    cases y with
    | nan => rfl
    | infinite t => simpa [mul, isNegative] using hx.trans hy.symm
    | finite t n f =>
      simp only [mul]
      split
      · rfl
      · simp_all [isNegative]
  | finite s m e =>
    cases y with
    | nan => rfl
    | infinite t =>
      simp only [mul]
      split
      · rfl
      · simp_all [isNegative]
    | finite t n f =>
      rw [← Bool.not_eq_true]
      intro h
      obtain ⟨hsign, hprod⟩ := isNegative_ofScaled h
      have hm : m ≠ 0 := fun h0 => hprod (by rw [h0, Nat.zero_mul])
      have hn : n ≠ 0 := fun h0 => hprod (by rw [h0, Nat.mul_zero])
      simp_all [isNegative]

theorem truncate_nonneg {x : Binary64} {n : Int} (hx : x.isNegative = false)
    (h : x.truncate = .ok n) : 0 ≤ n := by
  cases x with
  | nan => cases h
  | infinite s => cases h
  | finite s m e =>
    simp only [truncate, Except.ok.injEq] at h
    cases s with
    | false => simp only [Bool.false_eq_true, if_false] at h; omega
    | true =>
      have hm : m = 0 := by simpa [isNegative] using hx
      subst hm
      simp only [Nat.zero_shiftLeft, Nat.zero_shiftRight, ite_self] at h
      omega

end Binary64

/-! ## Complaints -/

theorem Given.complaint?_eq_none_iff {α ε : Type} {g : Given α} {missing : ε}
    {test : α → Option ε} :
    g.complaint? missing test = none ↔ ∃ a, g = .value a ∧ test a = none := by
  cases g <;> simp [complaint?]

namespace Settings

theorem frequencyComplaint?_eq_none_iff (n : Int) : frequencyComplaint? n = none ↔ 0 < n := by
  simp [frequencyComplaint?]

theorem framesComplaint?_eq_none_iff (n : Int) : framesComplaint? n = none ↔ 0 ≤ n := by
  simp [framesComplaint?]

theorem scaleComplaint?_eq_none_iff (n : Int) : scaleComplaint? n = none ↔ 1 ≤ n := by
  simp [scaleComplaint?]

theorem schemeComplaint?_eq_none_iff (name : String) :
    schemeComplaint? name = none ↔ ∃ p, Palette.ofName name = .ok p := by
  unfold schemeComplaint?
  cases Palette.ofName name <;> simp

/-- A number of seconds does not have a negative number of frames. -/
theorem framesIn_nonneg {s : Settings} (hrate : 0 ≤ s.timerFrequency) {seconds : Seconds} {n : Int}
    (h : s.framesIn seconds = .ok n) : 0 ≤ n := by
  cases seconds with
  | whole k =>
    simp only [framesIn] at h
    split at h
    · cases h
    · rename_i hk
      cases h
      exact Int.mul_nonneg (Int.not_lt.mp hk) hrate
  | real x =>
    simp only [framesIn] at h
    split at h
    · cases h
    · rename_i hx
      cases hr : Binary64.ofInt? s.timerFrequency with
      | none => rw [hr] at h; cases h
      | some rate =>
        simp only [hr] at h
        have hprod := Binary64.isNegative_mul (Bool.not_eq_true _ ▸ hx)
          (Binary64.isNegative_ofInt? hrate hr)
        cases ht : (x.mul rate).truncate with
        | ok k =>
          rw [ht] at h
          cases h
          exact Binary64.truncate_nonneg hprod ht
        | error e => rw [ht] at h; cases e <;> cases h

/-- What holds of the settings that a command line can give. -/
structure Usable (s : Settings) : Prop where
  instructionFrequency : 0 < s.instructionFrequency
  timerFrequency : s.timerFrequency = 60
  frames : 0 ≤ s.frames
  scale : 1 ≤ s.scale
  palette : ∃ p, Palette.ofName s.colourScheme = .ok p
  logLevel : s.logLevel = .empty ∨ ∃ level : Log.Level, s.logLevel = .value level.name

/-- At 60 clock periods a second. -/
theorem Usable.instructionsPerFrame {s : Settings} (h : s.Usable) :
    s.instructionsPerFrame = max 1 (s.instructionFrequency / 60) := by
  rw [Settings.instructionsPerFrame, h.timerFrequency, Int.fdiv_eq_ediv_of_nonneg _ (by decide)]

end Settings

namespace CommandLine.Options

theorem plain_usable {o : Options} (h : o.complaint? = none) : o.plain.Usable := by
  unfold complaint? at h
  simp only [Option.or_eq_none_iff, Given.complaint?_eq_none_iff,
    Settings.frequencyComplaint?_eq_none_iff, Settings.framesComplaint?_eq_none_iff,
    Settings.scaleComplaint?_eq_none_iff, Settings.schemeComplaint?_eq_none_iff] at h
  obtain ⟨⟨ips, hips, hpos⟩, ⟨frames, hframes, hnonneg⟩, ⟨scale, hscale, hone⟩, hscheme⟩ := h
  obtain ⟨name, hname, hp⟩ := hscheme
  refine ⟨?_, rfl, ?_, ?_, ?_, ?_⟩
  · simpa only [plain, hips, Given.getD] using hpos
  · simpa only [plain, hframes, Given.getD] using hnonneg
  · simpa only [plain, hscale, Given.getD] using hone
  · simpa only [plain, hname, Given.getD] using hp
  · unfold plain
    cases o.logLevel with
    | value level => exact .inr ⟨level, rfl⟩
    | empty => exact .inl rfl

theorem settings_usable {o : Options} {s : Settings} (h : o.settings = .ok s) : s.Usable := by
  unfold settings at h
  cases hc : o.complaint? with
  | some e => rw [hc] at h; cases h
  | none =>
    have hu := plain_usable hc
    rw [hc] at h
    simp only at h
    cases hs : o.seconds with
    | none => rw [hs] at h; cases h; exact hu
    | some g =>
      rw [hs] at h
      cases g with
      | empty => cases h
      | value x =>
        simp only [Settings.withSeconds] at h
        cases hf : o.plain.framesIn (.real x) with
        | error e => rw [hf] at h; cases h
        | ok n =>
          rw [hf] at h
          cases h
          have hn : 0 ≤ n := Settings.framesIn_nonneg (by rw [hu.timerFrequency]; decide) hf
          exact { hu with frames := hn }

end CommandLine.Options

namespace Program

variable {arguments : List String} {o : CommandLine.Options} {s : Settings}

theorem plan_of_settings (hread : CommandLine.read arguments = .ok o)
    (h : o.settings = .ok s) : plan arguments = .session s := by
  simp only [plan, hread, h]

theorem plan_of_unusable {e : SettingsError} (hread : CommandLine.read arguments = .ok o)
    (h : o.settings = .error e) :
    plan arguments = if e.isBadValue then .refuse e.message else .fail e := by
  simp only [plan, hread, h]

theorem run_of_session (h : plan arguments = .session s) (w : World) :
    run arguments w =
      .session (Session.run w.libraries s w.console (w.files.read s.romPath) (target s w.files)
        w.now) := by
  rw [run, h]

/-- The settings of an accepted command line are usable. -/
theorem plan_usable (h : plan arguments = .session s) : s.Usable := by
  unfold plan at h
  cases hr : CommandLine.read arguments with
  | error stop =>
    rw [hr] at h
    cases stop <;> cases h
  | ok options =>
    simp only [hr] at h
    cases hs : options.settings with
    | ok t =>
      simp only [hs] at h
      cases h
      exact CommandLine.Options.settings_usable hs
    | error e =>
      simp only [hs] at h
      split at h <;> cases h

end Program
end Chip8
