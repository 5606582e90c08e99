import Chip8.Proofs.FrameTable
import Chip8.Proofs.History
import Chip8.Proofs.Persistence

/-!
# No lost repaint

A host paints the display again when it finds the draw flag set, and then clears
the flag. So the flag has to be set whenever the display may have changed since.
The two instructions that write the display, 00E0 and DXYN, set it when they
complete. Nothing else sets it, and only the host clears it.

Results:
* `drawFlag_handleAll`: as long as the host does not clear it, the flag is the
  one at the start or says that an instruction painted.
* `display_handleAll`: where nothing painted the display is the one at the start.
* `repaint_signalled`: both, for whatever a host does, and a sprite that faults
  is not drawn at all.
-/
namespace Chip8
namespace Machine

/-! ## Events -/

theorem drawFlag_perform {m t : Machine} {i : Instruction} (h : m.perform i = .ok t)
    (hi : i.paints = true) : t.drawFlag = true := by
  cases i with
  | clear =>
    cases h
    rfl
  | draw x y n =>
    simp only [perform] at h
    split at h
    · cases h
    · cases h
      rfl
  | _ => cases hi

/-- Apart from the acknowledgement of the host, an event sets the draw flag or
leaves it. -/
theorem drawFlag_handle (m : Machine) {e : Event} (he : e ≠ .clearDrawFlag) :
    (m.handle e).drawFlag = (m.drawFlag || (m.completes? e).any Instruction.paints) := by
  rcases m.effect e with ⟨hs, hi⟩ | ⟨hm, hi⟩ | ⟨i, w, -, hi, -, hperform⟩
  · rw [hi, Option.any_none, Bool.or_false]
    have hf := m.handle_frame e
    cases e with
    | step => exact absurd rfl hs
    | clearDrawFlag => exact absurd rfl he
    | _ => exact (congrArg drawFlag hf).symm
  · rw [hi, hm, Option.any_none, Bool.or_false]
  · rw [hi, Option.any_some]
    cases hpaints : i.paints with
    | true => rw [drawFlag_perform hperform hpaints, Bool.or_true]
    | false =>
      rw [Bool.or_false]
      exact perform_keeps hperform (p := .drawFlag) hpaints

theorem display_handle (m : Machine) (e : Event)
    (h : (m.completes? e).any Instruction.paints = false) : (m.handle e).display = m.display := by
  rcases m.effect e with ⟨hs, -⟩ | ⟨hm, -⟩ | ⟨i, w, -, hi, -, hperform⟩
  · have hf := m.handle_frame e
    cases e with
    | step => exact absurd rfl hs
    | _ => exact (congrArg display hf).symm
  · rw [hm]
  · rw [hi, Option.any_some] at h
    exact perform_keeps hperform (p := .display) h

/-! ## Histories -/

theorem any_log_cons (m : Machine) (e : Event) (es : List Event) :
    (m.log (e :: es)).any Instruction.paints =
      ((m.completes? e).any Instruction.paints || ((m.handle e).log es).any Instruction.paints) := by
  rw [log, List.any_append]
  cases m.completes? e with
  | none => rfl
  | some i => simp

theorem drawFlag_handleAll (m : Machine) {es : List Event} (h : Event.clearDrawFlag ∉ es) :
    (m.handleAll es).drawFlag = (m.drawFlag || (m.log es).any Instruction.paints) := by
  induction es generalizing m with
  | nil => exact (Bool.or_false _).symm
  | cons e es ih =>
    have he : e ≠ .clearDrawFlag := (List.ne_of_not_mem_cons h).symm
    have hes : Event.clearDrawFlag ∉ es := List.not_mem_of_not_mem_cons h
    have htail : (m.handleAll (e :: es)).drawFlag = ((m.handle e).handleAll es).drawFlag := rfl
    rw [htail, ih _ hes, m.drawFlag_handle he, any_log_cons, Bool.or_assoc]

theorem display_handleAll (m : Machine) {es : List Event}
    (h : (m.log es).any Instruction.paints = false) : (m.handleAll es).display = m.display := by
  induction es generalizing m with
  | nil => rfl
  | cons e es ih =>
    rw [any_log_cons, Bool.or_eq_false_iff] at h
    exact (ih (m.handle e) h.2).trans (m.display_handle e h.1)

/-! ## What the host finds -/

theorem not_mem_history (m : Machine) {as : List Action}
    (h : Action.event .clearDrawFlag ∉ as) : Event.clearDrawFlag ∉ m.history as := by
  rw [← List.count_eq_zero, m.count_history as (by decide) (by decide), List.count_eq_zero]
  exact h

/-- **No lost repaint.** As long as the host does not clear the draw flag, it is
set exactly if it was set at the start or an instruction that paints has
completed. So if the host has cleared the flag and finds it still clear, every
cell is as it was. A sprite that faults, drawn in full and then taken back,
leaves both the flag and the display. -/
theorem repaint_signalled (m : Machine) (as : List Action)
    (h : Action.event .clearDrawFlag ∉ as) :
    ((m.actAll as).drawFlag = true ↔
      m.drawFlag = true ∨ ∃ i ∈ m.completed as, i.paints = true) ∧
    ((m.clearDrawFlag.actAll as).drawFlag = false →
      ∀ x y, (m.clearDrawFlag.actAll as).display.lit x y = m.display.lit x y) ∧
    ∀ x y n f, m.Spells (.draw x y n) → m.step = .error f →
      m.afterStep.drawFlag = m.drawFlag ∧ m.afterStep.display = m.display ∧
        ∀ bus, (m.stepOn bus).draft.drawFlag = m.drawFlag ∧
          (m.stepOn bus).draft.display = m.display := by
  refine ⟨?_, ?_, ?_⟩
  · rw [actAll_eq, m.drawFlag_handleAll (m.not_mem_history h), Bool.or_eq_true, List.any_eq_true]
    rfl
  · intro hflag x y
    rw [actAll_eq, drawFlag_handleAll _ (not_mem_history _ h), Bool.or_eq_false_iff] at hflag
    rw [actAll_eq, display_handleAll _ hflag.2]
    rfl
  · intro x y n f hs hstep
    rw [afterStep_of_error hstep]
    refine ⟨rfl, rfl, ?_⟩
    intro bus
    rw [stepOn_of_error hstep]
    exact ⟨rfl, rfl⟩

/-- A program that sets a register and then draws a sprite that reaches past the
end of memory. -/
def overreaching : Machine :=
  { blank ⟨0, 0⟩ .clip with
    memory := overwrite (Vector.replicate 4096 0) 0x200 [0x61, 0x05, 0xD0, 0x15]
    index := 0xFFE
    drawFlag := true }

theorem repaint_signalled_overreaching :
    (overreaching.actAll [.run 3, .event .tick]).drawFlag = true ∧
      (overreaching.clearDrawFlag.actAll [.run 3, .event .tick]).drawFlag = false ∧
      (∀ x y, (overreaching.clearDrawFlag.actAll [.run 3, .event .tick]).display.lit x y =
        overreaching.display.lit x y) ∧
      overreaching.afterStep.step = .error .memoryOutOfBounds ∧
      (overreaching.afterStep.stepOn .zero).draft.display = overreaching.afterStep.display := by
  have hclear : Action.event .clearDrawFlag ∉ [Action.run 3, .event .tick] := by decide
  have hoff : (overreaching.clearDrawFlag.actAll [.run 3, .event .tick]).drawFlag = false := by
    decide +kernel
  have hdraw : overreaching.afterStep.Spells (.draw 0 1 5) := by unfold Spells; decide +kernel
  have hfault : overreaching.afterStep.step = .error .memoryOutOfBounds :=
    Outcome.ofExcept_eq_fault_iff.mp (by decide +kernel)
  obtain ⟨hflag, hdisplay, -⟩ := repaint_signalled overreaching _ hclear
  obtain ⟨-, -, hfaulting⟩ := repaint_signalled overreaching.afterStep [] (by simp)
  obtain ⟨-, -, hdraft⟩ := hfaulting 0 1 5 _ hdraw hfault
  exact ⟨hflag.mpr (.inl rfl), hoff, hdisplay hoff, hfault, (hdraft .zero).2⟩

end Machine
end Chip8
