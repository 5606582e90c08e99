import Chip8.Proofs.FrameTable
import Chip8.Proofs.Persistence

/-!
# Waiting for a key

FX0A goes back to itself as long as no key is down, so a machine that meets it with
all keys up stays there: whatever the host does short of pressing a key, each step
carries out FX0A again and leaves no more than its record behind. The clock and the
acknowledgements go on beside it, and a released key was up already.

Once a key is down, FX0A takes the greatest one and goes on.

Results:
* `greatest_of_highest?`: the highest key is the greatest of those that are down.
* `step_of_awaits`, `takes_of_pressed`: FX0A without and with a key.
* `Awaits.stays_handle`, `Awaits.handleAll`: one event, any events.
* `Awaits.run`: a run waits for all of its steps.
* `waits_until_pressed`: all of it.
-/
namespace Chip8

/-! ## Keys -/

namespace Keypad

theorem mem_pressed {k : Keypad} {key : Fin 16} : key ∈ k.pressed ↔ k.isDown key = true := by
  simp only [pressed, List.mem_filter, List.mem_finRange, true_and]

theorem pairwise_pressed (k : Keypad) : k.pressed.Pairwise (· < ·) :=
  (List.pairwise_lt_finRange 16).filter _

/-- The keys that are down come in ascending order, so the last one is the greatest. -/
theorem greatest_of_highest? {k : Keypad} {key : Fin 16} (h : k.highest? = some key) :
    k.isDown key = true ∧ ∀ j, k.isDown j = true → j ≤ key := by
  obtain ⟨front, hpressed⟩ := List.getLast?_eq_some_iff.mp h
  have hsorted := k.pairwise_pressed
  rw [hpressed, List.pairwise_append] at hsorted
  have hmem : ∀ j, k.isDown j = true ↔ j ∈ front ∨ j = key := fun j => by
    rw [← mem_pressed, hpressed, List.mem_append, List.mem_singleton]
  refine ⟨(hmem key).mpr (.inr rfl), fun j hj => ?_⟩
  rcases (hmem j).mp hj with hj | rfl
  · exact Fin.le_of_lt (hsorted.2.2 j hj key List.mem_cons_self)
  · exact Fin.le_refl j

/-- A key that is up can be released. -/
theorem set_of_up {k : Keypad} {key : Fin 16} (h : k.isDown key = false) : k.set key false = k := by
  simp only [isDown] at h
  simp only [set, ← h]
  congr 1
  exact Vector.set_getElem_self key.isLt

end Keypad

/-- The events that press no key and load nothing. -/
def Event.isIdle : Event → Bool
  | .step | .tick | .release _ | .clearDrawFlag | .clearSoundFlag => true
  | .press _ | .setKeypad _ | .randomByte | .load _ => false

/-- The parts of a machine that change while it waits for a key. -/
def Part.drifts : Part → Bool
  | .opcode | .drawFlag | .delayTimer | .soundTimer | .soundFlag => true
  | _ => false

namespace Machine

variable {m t : Machine} {x : Fin 16}

/-- FX0A is at the program counter, and no key is down. -/
structure Awaits (m : Machine) (x : Fin 16) : Prop where
  spells : m.Spells (.waitKey x)
  up : ∀ key, m.keypad.isDown key = false

/-- Everything that does not drift is as it was. -/
def Stays (m t : Machine) : Prop := ∀ p : Part, p.drifts = false → m.Kept t p

theorem Stays.refl (m : Machine) : m.Stays m := by
  intro p _
  cases p <;> rfl

theorem Stays.trans {u : Machine} (h : m.Stays t) (h' : t.Stays u) : m.Stays u := by
  intro p hp
  have h1 := h p hp
  have h2 := h' p hp
  cases p <;> exact Eq.trans h2 h1

theorem Stays.awaits (h : m.Stays t) (hm : m.Awaits x) : t.Awaits x := by
  have hmemory : t.memory = m.memory := Vector.ext fun k hk => h (.cell ⟨k, hk⟩) rfl
  have hpc : t.pc = m.pc := h .pc rfl
  have hkeypad : t.keypad = m.keypad := h .keypad rfl
  have hspells : t.Spells (.waitKey x) := by
    unfold Spells
    simp only [hmemory, hpc]
    exact hm.spells
  exact ⟨hspells, fun key => by rw [hkeypad]; exact hm.up key⟩

/-! ## Steps -/

/-- Without a key, fetching moves past the word and FX0A moves back. -/
theorem step_of_awaits (h : m.Awaits x) : ∃ w, m.step = .ok { m with opcode := w } := by
  obtain ⟨w, -, -, hstep⟩ := step_eq_of_spells h.spells
  have hnone : (m.fetched w).keypad.highest? = none := (Keypad.highest?_eq_none_iff _).mpr h.up
  refine ⟨w, ?_⟩
  rw [hstep]
  simp only [perform, hnone]
  simp only [fetched, UInt16.add_sub_cancel]

/-- What `t` holds after FX0A has taken a key on `m`. -/
structure Takes (m t : Machine) (x key : Fin 16) : Prop where
  register : (t.reg x).toNat = key
  pc : t.pc.toNat = m.pc.toNat + 2
  kept : ∀ p : Part, p ≠ .register x → p ≠ .pc → p ≠ .opcode → m.Kept t p

theorem takes_of_pressed (hs : m.Spells (.waitKey x)) {key : Fin 16}
    (hk : m.keypad.highest? = some key) : ∃ t, m.step = .ok t ∧ m.Takes t x key := by
  obtain ⟨w, -, -, hstep⟩ := step_eq_of_spells hs
  have hkey : (m.fetched w).keypad.highest? = some key := hk
  have hpc := hs.pc_le
  simp only [perform, hkey] at hstep
  refine ⟨_, hstep, ?_, ?_, ?_⟩
  · rw [reg_setReg_self]
    exact UInt8.toNat_ofNat_of_lt' (Nat.lt_trans key.isLt (by decide))
  · exact toNat_add_two (by omega)
  · intro p hreg hpc hopcode
    cases p with
    | register j => exact reg_setReg_of_ne (fun hj => hreg (by rw [hj])) _
    | pc => exact absurd rfl hpc
    | opcode => exact absurd rfl hopcode
    | _ => rfl

/-! ## Events -/

theorem Awaits.stays_handle (h : m.Awaits x) {e : Event} (he : e.isIdle = true) :
    m.Stays (m.handle e) := by
  cases e with
  | step =>
    obtain ⟨w, hstep⟩ := step_of_awaits h
    have ht : m.handle .step = { m with opcode := w } := afterStep_of_ok hstep
    rw [ht]
    intro p hp
    cases p <;> first | rfl | cases hp
  | release key =>
    have ht : m.handle (.release key) = m := by
      simp only [handle, releaseKey]
      cases Key.ofInt key with
      | error e => rfl
      | ok k => simp only [unlessRefused, Keypad.set_of_up (h.up k)]
    rw [ht]
    exact Stays.refl m
  | tick | clearDrawFlag | clearSoundFlag =>
    intro p hp
    cases p <;> first | rfl | cases hp
  | press key | setKeypad keys | randomByte | load image => cases he

/-- A step that is waited through completes FX0A; the host completes nothing. -/
theorem Awaits.completes? (h : m.Awaits x) (e : Event) :
    m.completes? e = if e = .step then some (.waitKey x) else none := by
  split
  · next he =>
    subst he
    obtain ⟨w, hstep⟩ := step_of_awaits h
    obtain ⟨i, hs, hi⟩ := completes?_of_ok hstep
    rw [hi, hs.unique h.spells]
  · next he => exact m.completes?_host e he

theorem Awaits.handleAll (h : m.Awaits x) {es : List Event} (hes : ∀ e ∈ es, e.isIdle = true) :
    m.Stays (m.handleAll es) ∧ m.log es = List.replicate (es.count .step) (.waitKey x) := by
  induction es generalizing m with
  | nil => exact ⟨Stays.refl m, rfl⟩
  | cons e es ih =>
    have hone : m.Stays (m.handle e) := h.stays_handle (hes e List.mem_cons_self)
    obtain ⟨hrest, hlog⟩ := ih (hone.awaits h) fun d hd => hes d (List.mem_cons_of_mem e hd)
    refine ⟨hone.trans hrest, ?_⟩
    rw [log, h.completes? e, hlog]
    by_cases he : e = .step
    · subst he
      rw [if_pos rfl, List.count_cons_self, List.replicate_succ]
      rfl
    · rw [if_neg he, List.count_cons_of_ne he]
      rfl

theorem Awaits.run (h : m.Awaits x) (n : Nat) :
    (m.run n).outcome = .ok ∧ (m.run n).executed = n := by
  have hhalt := m.run_halts n
  have hidle : ∀ e ∈ m.runEvents n, e.isIdle = true := by
    intro e he
    rw [List.eq_of_mem_replicate he]
    rfl
  have hend := (h.handleAll hidle).1.awaits h
  rw [handleAll_run] at hend
  obtain ⟨w, hstep⟩ := step_of_awaits hend
  have hok : (m.run n).outcome = .ok := by
    cases ho : (m.run n).outcome with
    | ok => rfl
    | fault f =>
      rw [hhalt.step_of_fault ho] at hstep
      cases hstep
  exact ⟨hok, hhalt.executed_eq_iff.mpr hok⟩

/-- **Waiting.** A machine that meets FX0A with no key down stays there under any events
that press no key: every step among them completes FX0A, the next one completes too, and
nothing changes but the record, the timers and the flags. A run of any length completes.
When the host has then done to the peripherals what it likes and some key is down, the
next step takes the greatest such key and goes on. -/
theorem waits_until_pressed (h : m.Awaits x) :
    (∀ es : List Event, (∀ e ∈ es, e.isIdle = true) →
      let t := m.handleAll es
      m.log es = List.replicate (es.count .step) (.waitKey x) ∧
        t.step = .ok t.afterStep ∧ m.Stays t ∧
        ∀ fs : List Event, (∀ e ∈ fs, e.isPeripheral = true) →
          let u := t.handleAll fs
          (∃ key, u.keypad.isDown key = true) →
            ∃ top v, u.keypad.isDown top = true ∧ (∀ j, u.keypad.isDown j = true → j ≤ top) ∧
              u.step = .ok v ∧ u.Takes v x top ∧ v.pc.toNat = m.pc.toNat + 2) ∧
    ∀ n, (m.run n).outcome = .ok ∧ (m.run n).executed = n ∧
      (n < 2 ^ 31 → (Loop.turns n (.start m)).Shows (m.run n)) := by
  refine ⟨fun es hes => ?_, fun n => ⟨(h.run n).1, (h.run n).2, Loop.turns_shows m n⟩⟩
  intro t
  obtain ⟨hstays, hlog⟩ := h.handleAll hes
  have ht : t.Awaits x := hstays.awaits h
  obtain ⟨w, hstep⟩ := step_of_awaits ht
  refine ⟨hlog, ?_, hstays, ?_⟩
  · rw [hstep, afterStep_of_ok hstep]
  · rintro fs hfs u ⟨key, hkey⟩
    -- the host reaches neither the memory nor the program counter
    obtain ⟨p, hp⟩ := t.handleAll_eq_attach hfs
    have hu : u = t.attach p := hp
    have hspells : u.Spells (.waitKey x) := by
      rw [hu]
      exact ht.spells
    obtain ⟨top, htop⟩ : ∃ top, u.keypad.highest? = some top := by
      refine Option.ne_none_iff_exists'.mp fun hnone => ?_
      rw [(Keypad.highest?_eq_none_iff _).mp hnone key] at hkey
      cases hkey
    obtain ⟨hdown, hgreatest⟩ := Keypad.greatest_of_highest? htop
    obtain ⟨v, hv, htakes⟩ := takes_of_pressed hspells htop
    have hpc : u.pc = m.pc := by
      rw [hu]
      exact hstays .pc rfl
    exact ⟨top, v, hdown, hgreatest, hv, htakes, by rw [htakes.pc, hpc]⟩

/-- FX0A in the last word of memory, while a tone is about to end. -/
def listening : Machine :=
  { blank ⟨0, 0⟩ .clip with
    memory := overwrite (Vector.replicate 4096 0) 0xFFE [0xF3, 0x0A]
    soundTimer := 2
    drawFlag := true
    pc := 0xFFE }

/-- Two steps wait, and then key 0 is taken, or the greater of two keys. -/
theorem waits_until_pressed_listening :
    let es : List Event := [.step, .tick, .release 7, .step, .clearDrawFlag, .release (-1), .tick]
    let t := listening.handleAll es
    (listening.Awaits 3 ∧ listening.log es = [.waitKey 3, .waitKey 3] ∧ listening.Stays t) ∧
    (∃ v, (t.handleAll [.press 0]).step = .ok v ∧ (v.reg 3).toNat = 0 ∧ v.pc.toNat = 0x1000) ∧
    (∃ v, (t.handleAll [.setKeypad [4, 11]]).step = .ok v ∧ (v.reg 3).toNat = 11) ∧
    (listening.run 1000).executed = 1000 := by
  intro es t
  have hawaits : listening.Awaits 3 := by
    constructor
    · unfold Spells; decide +kernel
    · decide
  have hes : ∀ e ∈ es, e.isIdle = true := by decide
  obtain ⟨hevents, hrun⟩ := waits_until_pressed hawaits
  obtain ⟨hlog, -, hstays, hpress⟩ := hevents es hes
  -- which key is taken depends on the keypad alone, so `t` need not be computed
  have hkeypad : t.keypad = listening.keypad := hstays .keypad rfl
  have hzero : (t.handleAll [.press 0]).keypad = listening.keypad.set 0 true := by
    rw [← hkeypad]
    rfl
  have hboth : (t.handleAll [.setKeypad [4, 11]]).keypad = Keypad.ofKeys [4, 11] := rfl
  refine ⟨⟨hawaits, hlog, hstays⟩, ?_, ?_, (hrun 1000).2.1⟩
  · obtain ⟨top, v, htop, -, hstep, htakes, hpc⟩ :=
      hpress [.press 0] (by decide) ⟨0, by rw [hzero]; decide⟩
    rw [hzero] at htop
    have honly : ∀ j : Fin 16, (listening.keypad.set 0 true).isDown j = true → j = 0 := by decide
    exact ⟨v, hstep, by rw [htakes.register, honly top htop]; rfl, hpc⟩
  · obtain ⟨top, v, htop, hgreatest, hstep, htakes, -⟩ :=
      hpress [.setKeypad [4, 11]] (by decide) ⟨4, by rw [hboth]; decide⟩
    rw [hboth] at htop hgreatest
    have heleven : (11 : Fin 16) ≤ top := hgreatest 11 (by decide)
    have hle : ∀ j : Fin 16, (Keypad.ofKeys [4, 11]).isDown j = true → j ≤ 11 := by decide
    exact ⟨v, hstep, by rw [htakes.register, Fin.le_antisymm (hle top htop) heleven]; rfl⟩

end Machine
end Chip8
