import Chip8.Proofs.OpenBus
import Chip8.Proofs.Run
import Chip8.Proofs.Verdict

/-!
# Sprites that cross an edge

The two policies measure the same distance from a sprite's corner to a cell that
is not before it (`Edges.shift_of_le`). Before the corner, one finds a negative
distance and the other one that counts from the opposite edge. A sprite that
crosses no edge has no cell there under either policy.

Masks are those of a machine that runs every instruction in full, so that the
statements about them hold wherever I points.

Results:
* `mask_clip`: the mask that is cut off is the mask that wraps, from the corner on.
* `mask_wrap`: a mask that wraps sees its corner only modulo the display.
* `mask_withEdges`: if the sprite crosses no edge, the policy does not matter.
* `perform_withEdges`, `step_withEdges`, `run_withEdges`, `turns_withEdges`: so for
  instructions, steps, runs and the loop.
* `edges_agree`: all of it.
-/
namespace Chip8

/-! ## Distances -/

namespace Edges

variable {size corner cell : Nat}

theorem shift_of_le (e : Edges) (hle : corner ≤ cell) (hlt : cell < size) :
    e.shift size corner cell = (cell : Int) - corner := by
  cases e with
  | clip => rfl
  | wrap => exact Int.emod_eq_of_lt (by omega) (by omega)

theorem shift_clip_neg (h : cell < corner) : clip.shift size corner cell < 0 := by
  simp only [shift]
  omega

/-- Before the corner a distance that wraps counts from the opposite edge. -/
theorem shift_wrap_of_lt (h : cell < corner) (hcorner : corner ≤ size) :
    wrap.shift size corner cell = (cell : Int) - corner + size := by
  have hmod : ((cell : Int) - corner + size) % size = (cell : Int) - corner + size :=
    Int.emod_eq_of_lt (by omega) (by omega)
  rw [Int.add_emod_right] at hmod
  exact hmod

/-- Nothing of a span that ends before the edge lies before its corner. -/
theorem shift_outside (e : Edges) {span : Nat} (hspan : corner + span ≤ size)
    (h : cell < corner) : ¬ (0 ≤ e.shift size corner cell ∧ e.shift size corner cell < span) := by
  cases e with
  | clip =>
    have hneg : clip.shift size corner cell < 0 := shift_clip_neg h
    omega
  | wrap =>
    rw [shift_wrap_of_lt h (by omega)]
    omega

theorem shift_wrap_mod (size corner cell : Nat) :
    wrap.shift size (corner % size) cell = wrap.shift size corner cell := by
  simp only [shift, Int.natCast_emod, Int.sub_emod_emod]

theorem shift_wrap_congr {corner' : Nat} (h : corner % size = corner' % size) :
    wrap.shift size corner cell = wrap.shift size corner' cell := by
  rw [← shift_wrap_mod, h, shift_wrap_mod]

end Edges

namespace Machine

def withEdges (m : Machine) (e : Edges) : Machine := { m with edges := e }

theorem edges_withEdges (m : Machine) (e : Edges) : (m.withEdges e).edges = e := rfl

theorem reg_withEdges (m : Machine) (e : Edges) (x : Fin 16) : (m.withEdges e).reg x = m.reg x :=
  rfl

/-- If the instruction draws a sprite, the sprite crosses no edge. -/
def Fits (m : Machine) : Instruction → Prop
  | .draw x y n => (m.reg x).toNat + 8 ≤ 64 ∧ (m.reg y).toNat + n ≤ 32
  | _ => True

/-! ## Masks -/

theorem mask_of_outside {m : Machine} {x y n : Fin 16} {cx : Fin 64} {cy : Fin 32}
    (h : ¬ (0 ≤ m.edges.shift 64 (m.reg x).toNat cx ∧ m.edges.shift 64 (m.reg x).toNat cx < 8) ∨
      ¬ (0 ≤ m.edges.shift 32 (m.reg y).toNat cy ∧
        m.edges.shift 32 (m.reg y).toNat cy < (n : Nat))) (bus : Bus) :
    m.mask bus x y n cx cy = false := by
  simp only [mask]
  rw [decide_eq_false (by omega), Bool.and_false]

/-- A cell of a mask depends on the sprite and on the two distances. -/
theorem mask_congr {m t : Machine} {x y x' y' n : Fin 16} {cx : Fin 64} {cy : Fin 32}
    (hmemory : t.memory = m.memory) (hindex : t.index = m.index)
    (hcol : t.edges.shift 64 (t.reg x').toNat cx = m.edges.shift 64 (m.reg x).toNat cx)
    (hrow : t.edges.shift 32 (t.reg y').toNat cy = m.edges.shift 32 (m.reg y).toNat cy)
    (bus : Bus) : t.mask bus x' y' n cx cy = m.mask bus x y n cx cy := by
  simp only [mask, hmemory, hindex, hcol, hrow]

/-- From the corner on the policy does not matter. -/
theorem mask_withEdges_of_le {m : Machine} {x y n : Fin 16} {cx : Fin 64} {cy : Fin 32}
    (h : (m.reg x).toNat ≤ cx ∧ (m.reg y).toNat ≤ cy) (e : Edges) (bus : Bus) :
    (m.withEdges e).mask bus x y n cx cy = m.mask bus x y n cx cy := by
  refine mask_congr (m := m) (t := m.withEdges e) rfl rfl ?_ ?_ bus
  · rw [edges_withEdges, reg_withEdges, Edges.shift_of_le _ h.1 cx.isLt,
      Edges.shift_of_le _ h.1 cx.isLt]
  · rw [edges_withEdges, reg_withEdges, Edges.shift_of_le _ h.2 cy.isLt,
      Edges.shift_of_le _ h.2 cy.isLt]

/-- A sprite that crosses no edge has no cells before its corner. -/
theorem mask_of_fits {m : Machine} {x y n : Fin 16} (h : m.Fits (.draw x y n))
    {cx : Fin 64} {cy : Fin 32} (hc : ¬ ((m.reg x).toNat ≤ cx ∧ (m.reg y).toNat ≤ cy))
    (bus : Bus) : m.mask bus x y n cx cy = false := by
  refine mask_of_outside ?_ bus
  by_cases hx : (m.reg x).toNat ≤ cx
  · exact .inr (Edges.shift_outside _ h.2 (Nat.lt_of_not_le fun hy => hc ⟨hx, hy⟩))
  · exact .inl (Edges.shift_outside _ h.1 (Nat.lt_of_not_le hx))

/-- The mask that is cut off is the mask that wraps, from the corner on. -/
theorem mask_clip {m : Machine} (he : m.edges = .clip) (bus : Bus) (x y n : Fin 16)
    (cx : Fin 64) (cy : Fin 32) :
    m.mask bus x y n cx cy = ((m.withEdges .wrap).mask bus x y n cx cy &&
      decide ((m.reg x).toNat ≤ cx ∧ (m.reg y).toNat ≤ cy)) := by
  by_cases h : (m.reg x).toNat ≤ cx ∧ (m.reg y).toNat ≤ cy
  · rw [decide_eq_true h, Bool.and_true, mask_withEdges_of_le h]
  · rw [decide_eq_false h, Bool.and_false]
    refine mask_of_outside ?_ bus
    rw [he]
    by_cases hx : (m.reg x).toNat ≤ cx
    · have hneg : Edges.clip.shift 32 (m.reg y).toNat cy < 0 :=
        Edges.shift_clip_neg (Nat.lt_of_not_le fun hy => h ⟨hx, hy⟩)
      exact .inr (by omega)
    · have hneg : Edges.clip.shift 64 (m.reg x).toNat cx < 0 :=
        Edges.shift_clip_neg (Nat.lt_of_not_le hx)
      exact .inl (by omega)

/-- A mask that wraps sees its corner only modulo the display. -/
theorem mask_wrap {m t : Machine} (hm : m.edges = .wrap) (ht : t.edges = .wrap)
    (hmemory : t.memory = m.memory) (hindex : t.index = m.index) {x y x' y' : Fin 16}
    (hx : (t.reg x').toNat % 64 = (m.reg x).toNat % 64)
    (hy : (t.reg y').toNat % 32 = (m.reg y).toNat % 32) (bus : Bus) (n : Fin 16) :
    t.mask bus x' y' n = m.mask bus x y n := by
  funext cx cy
  refine mask_congr hmemory hindex ?_ ?_ bus
  · rw [hm, ht]
    exact Edges.shift_wrap_congr hx
  · rw [hm, ht]
    exact Edges.shift_wrap_congr hy

/-- If the sprite crosses no edge, the policy does not matter. -/
theorem mask_withEdges {m : Machine} {x y n : Fin 16} (h : m.Fits (.draw x y n)) (e : Edges)
    (bus : Bus) : (m.withEdges e).mask bus x y n = m.mask bus x y n := by
  funext cx cy
  by_cases hc : (m.reg x).toNat ≤ cx ∧ (m.reg y).toNat ≤ cy
  · exact mask_withEdges_of_le hc e bus
  · have h' : (m.withEdges e).Fits (.draw x y n) := h
    rw [mask_of_fits h hc, mask_of_fits h' hc]

/-! ## Instructions -/

theorem skipIf_withEdges (m : Machine) (e : Edges) (c : Bool) :
    (m.withEdges e).skipIf c = (m.skipIf c).withEdges e := by
  cases c <;> rfl

theorem combine_withEdges (m : Machine) (e : Edges) (op : Arith) (x y : Fin 16) :
    (m.withEdges e).combine op x y = (m.combine op x y).withEdges e := by
  cases op <;> rfl

theorem drawSprite_withEdges {m : Machine} {x y n : Fin 16} (h : m.Fits (.draw x y n))
    {rows : List UInt8} (hrows : readBlock? m.memory m.index.toNat n = some rows) (e : Edges) :
    (m.withEdges e).drawSprite x y rows = (m.drawSprite x y rows).withEdges e := by
  have hcells : Sprite.cells ⟨(m.reg x).toNat, (m.reg y).toNat, rows⟩ e =
      Sprite.cells ⟨(m.reg x).toNat, (m.reg y).toNat, rows⟩ m.edges := by
    rw [← mask_eq hrows .zero, ← mask_withEdges h e]
    exact (mask_eq (m := m.withEdges e) hrows .zero).symm
  unfold drawSprite
  simp only [reg] at hcells
  simp only [withEdges, reg, hcells]
  rfl

theorem perform_withEdges {m : Machine} {i : Instruction} (h : m.Fits i) (e : Edges) :
    (m.withEdges e).perform i = (m.perform i).map fun t => t.withEdges e := by
  cases i with
  | draw x y n =>
    have hread : readBlock? (m.withEdges e).memory (m.withEdges e).index.toNat n =
        readBlock? m.memory m.index.toNat n := rfl
    simp only [perform, hread]
    cases hrows : readBlock? m.memory m.index.toNat n with
    | none => rfl
    | some rows => exact congrArg Except.ok (drawSprite_withEdges h hrows e)
  | ret | call | decimal | store | load =>
    -- what decides is not the policy
    simp only [perform, withEdges, reg]
    split <;> rfl
  | skipEqByte | skipNeByte | skipEqReg | skipNeReg | skipPressed | skipReleased =>
    exact congrArg _ (m.skipIf_withEdges e _)
  | arith op x y => exact congrArg _ (m.combine_withEdges e op x y)
  | waitKey x =>
    simp only [perform, withEdges]
    split <;> rfl
  | _ => rfl

/-! ## Steps and runs -/

theorem step_withEdges {m : Machine} (h : ∀ i, m.Spells i → m.Fits i) (e : Edges) :
    (m.withEdges e).step = m.step.map fun t => t.withEdges e := by
  cases hp : m.pending? with
  | some i =>
    have hs : m.Spells i := (m.spells_iff i).mpr hp
    have hs' : (m.withEdges e).Spells i := hs
    obtain ⟨w, -, hw, hstep⟩ := step_eq_of_spells hs
    obtain ⟨w', -, hw', hstep'⟩ := step_eq_of_spells hs'
    cases UInt16.toNat_inj.mp (hw'.trans hw.symm)
    have hfits : (m.fetched w).Fits i := by
      have := h i hs
      cases i <;> exact this
    rw [hstep, hstep']
    exact perform_withEdges hfits e
  | none =>
    rw [step_eq, step_eq]
    have hword : (m.withEdges e).word? = m.word? := rfl
    rw [hword]
    unfold pending? at hp
    cases hw : m.word? with
    | none => rfl
    | some w =>
      rw [hw] at hp
      have hno : Instruction.ofInt? w.toNat = none := hp
      simp only [hno]
      rfl

/-- How a step ends does not depend on the policy. -/
theorem outcome_withEdges (m : Machine) (e : Edges) :
    Outcome.ofExcept (m.withEdges e).step = Outcome.ofExcept m.step := by
  rw [outcome_step, outcome_step]
  rfl

theorem step_withEdges_of_error {m : Machine} {f : Fault} (h : m.step = .error f) (e : Edges) :
    (m.withEdges e).step = .error f := by
  rw [← Outcome.ofExcept_eq_fault_iff, outcome_withEdges, h]
  rfl

/-- A run whose completed steps draw no sprite across an edge is the same under
either policy. -/
theorem run_withEdges {m : Machine} {n : Nat}
    (h : ∀ i < (m.run n).executed, ∀ j, (m.nth i).Spells j → (m.nth i).Fits j) (e : Edges) :
    (m.withEdges e).run n = { m.run n with machine := (m.run n).machine.withEdges e } := by
  induction n generalizing m with
  | zero => rfl
  | succ n ih =>
    cases hs : m.step with
    | error f => rw [run_of_error hs, run_of_error (step_withEdges_of_error hs e)]
    | ok t =>
      rw [run_of_ok hs] at h ⊢
      have hstep : (m.withEdges e).step = .ok (t.withEdges e) := by
        rw [step_withEdges (m := m) (h 0 (Nat.succ_pos _)), hs]
        rfl
      have hrest : ∀ i < (t.run n).executed, ∀ j, (t.nth i).Spells j → (t.nth i).Fits j := by
        intro i hi
        have hnth : m.nth (i + 1) = t.nth i := by rw [nth_succ, afterStep_of_ok hs]
        rw [← hnth]
        exact h (i + 1) (Nat.succ_lt_succ hi)
      rw [run_of_ok hstep, ih hrest]

/-- So is the loop, however far it counts. -/
theorem turns_withEdges {m : Machine} {n : Nat}
    (h : ∀ i < (m.run n).executed, ∀ j, (m.nth i).Spells j → (m.nth i).Fits j) (e : Edges) :
    let c := Loop.turns n (.start m)
    Loop.turns n (.start (m.withEdges e)) = { c with machine := c.machine.withEdges e } := by
  simp only [Loop.start, Loop.turns_eq, run_withEdges h]

/-- **Edges.** If no sprite that a run draws crosses an edge, the run is the same
whether sprites are cut off or wrap, and so is the loop, however far it counts. A
mask that is cut off is the mask that wraps, from its corner on. A mask that wraps
depends on its corner only modulo the width and the height of the display. -/
theorem edges_agree {c : Machine} (hc : c.edges = .clip) :
    let w := c.withEdges .wrap
    (∀ n, (∀ i < (c.run n).executed, ∀ j, (c.nth i).Spells j → (c.nth i).Fits j) →
      w.run n = { c.run n with machine := (c.run n).machine.withEdges .wrap } ∧
        let l := Loop.turns n (.start c)
        Loop.turns n (.start w) = { l with machine := l.machine.withEdges .wrap }) ∧
    (∀ bus x y n cx cy, c.mask bus x y n cx cy =
      (w.mask bus x y n cx cy && decide ((c.reg x).toNat ≤ cx ∧ (c.reg y).toNat ≤ cy))) ∧
    (∀ bus regs x y x' y' n,
      let t := { w with regs := regs }
      (t.reg x').toNat % 64 = (w.reg x).toNat % 64 →
      (t.reg y').toNat % 32 = (w.reg y).toNat % 32 →
        t.mask bus x' y' n = w.mask bus x y n) := by
  intro w
  refine ⟨fun n h => ⟨run_withEdges h .wrap, turns_withEdges h .wrap⟩,
    fun bus x y n => mask_clip hc bus x y n, ?_⟩
  intro bus regs x y x' y' n t hx hy
  exact mask_wrap (m := w) (t := t) rfl rfl rfl rfl hx hy bus n

/-- A program that draws its own code into the lower right corner. -/
def cornered : Machine :=
  { blank ⟨0, 0⟩ .clip with
    memory := overwrite (Vector.replicate 4096 0) 0x200 [0xD0, 0x15]
    regs := overwrite (Vector.replicate 16 0) 0 [56, 27]
    index := 0x200 }

theorem edges_agree_cornered :
    (cornered.withEdges .wrap).run 2 =
        { cornered.run 2 with machine := (cornered.run 2).machine.withEdges .wrap } ∧
      ∀ bus, { cornered.withEdges .wrap with
          regs := overwrite (Vector.replicate 16 0) 0 [27, 120, 251] }.mask bus 1 2 5 =
        (cornered.withEdges .wrap).mask bus 0 1 5 := by
  obtain ⟨hrun, -, hmask⟩ := edges_agree (c := cornered) rfl
  refine ⟨(hrun 2 ?_).1, fun bus => hmask bus _ 0 1 1 2 5 (by decide) (by decide)⟩
  have hdraw : cornered.Spells (.draw 0 1 5) := by unfold Spells; decide +kernel
  have hone : (cornered.run 2).executed = 1 := by decide +kernel
  intro i hi j hj
  rw [hone, Nat.lt_one_iff] at hi
  subst hi
  rw [hj.unique hdraw]
  exact ⟨by decide, by decide⟩

end Machine
end Chip8
