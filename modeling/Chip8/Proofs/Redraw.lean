import Chip8.Proofs.FrameTable
import Chip8.Proofs.Plotting

/-!
# Sprites drawn twice

What a sprite covers depends on memory, on I, on the two registers of its corner and
on the edges, and DXYN writes none of these unless VF is one of the two registers. So
a second draw covers the same cells as the first, and inverts them back. It meets the
cells that the first one lit, which are those that were dark before.

Results:
* `Display.toggle_toggle`, `Display.meets_toggle`: cells that are inverted twice.
* `covered_congr`, `covered_inked`: what the covered cells depend on.
* `flags_inked`, `inked_inked`: the flag after a draw, and a second draw.
* `draw_twice_erases`: the two draws.
-/
namespace Chip8

namespace Display

theorem toggle_toggle (d : Display) (s : CellSet) : (d.toggle s).toggle s = d :=
  ext_lit fun x y => by
    rw [lit_toggle, lit_toggle, Bool.xor_assoc, Bool.xor_self, Bool.xor_false]

/-- Cells that were just inverted are met where they were dark. -/
theorem meets_toggle (d : Display) (s : CellSet) :
    (d.toggle s).meets s = true ↔ ∃ x y, s x y = true ∧ d.lit x y = false := by
  have hcell (x : Fin 64) (y : Fin 32) :
      s x y = true ∧ (d.toggle s).lit x y = true ↔ s x y = true ∧ d.lit x y = false := by
    refine and_congr_right fun hs => ?_
    rw [lit_toggle, hs, Bool.xor_true, Bool.not_eq_true']
  simp only [meets_eq_true_iff, hcell]

end Display

namespace Machine

variable {m t : Machine} {x y n : Fin 16} {p : Prop}

/-! ## The covered cells -/

theorem exists_covered_iff : (∃ cx cy, m.covered x y n cx cy = true) ↔
    ∃ p : Fin n × Fin 8, (m.target? x y p).isSome = true := by
  simp only [covered_eq_true_iff, Option.isSome_iff_exists, Prod.exists]
  constructor
  · rintro ⟨cx, cy, r, c, hp⟩
    exact ⟨r, c, cx, cy, hp⟩
  · rintro ⟨r, c, cx, cy, hp⟩
    exact ⟨cx, cy, r, c, hp⟩

theorem covered_congr (hmemory : t.memory = m.memory) (hindex : t.index = m.index)
    (hedges : t.edges = m.edges) (hx : t.reg x = m.reg x) (hy : t.reg y = m.reg y) :
    t.covered x y n = m.covered x y n := by
  have htarget (p : Fin n × Fin 8) : t.target? x y p = m.target? x y p := by
    rw [target?, target?, hmemory, hindex, hedges, hx, hy]
  funext cx cy
  simp only [covered, htarget]

/-- A draw leaves in place what a sprite covers, unless its corner is in VF. -/
theorem covered_inked (hx : x ≠ vf) (hy : y ≠ vf) (cells : CellSet) :
    (m.inked cells).covered x y n = m.covered x y n :=
  covered_congr rfl rfl rfl ((reg_inked ..).trans (reg_setReg_of_ne hx _))
    ((reg_inked ..).trans (reg_setReg_of_ne hy _))

/-! ## The flag -/

def Flags (m : Machine) (p : Prop) : Prop := (p → m.reg vf = 1) ∧ (¬ p → m.reg vf = 0)

theorem reg_vf_inked (m : Machine) (cells : CellSet) :
    (m.inked cells).reg vf = Arith.flagOf (m.display.meets cells) := by
  rw [reg_inked, reg_setReg_self]

theorem flags_inked {cells : CellSet} (h : m.display.meets cells = true ↔ p) :
    (m.inked cells).Flags p := by
  unfold Flags
  rw [reg_vf_inked]
  constructor
  · intro hp
    rw [h.mpr hp]
    rfl
  · intro hp
    rw [Bool.eq_false_iff.mpr fun hmeets => hp (h.mp hmeets)]
    rfl

/-! ## Two draws -/

theorem inked_inked (m : Machine) (cells : CellSet) :
    ∃ flag, (m.inked cells).inked cells = { m.setReg vf flag with drawFlag := true } := by
  refine ⟨Arith.flagOf ((m.display.toggle cells).meets cells), ?_⟩
  simp only [inked, setReg, put, Vector.set_set, Display.toggle_toggle]

/-- **Redrawing.** If its rows lie in memory and its corner is not in VF, DXYN twice in a
row restores the display: the first draw inverts the cells that the sprite covers, the
second inverts them back. The first VF tells whether one of them was lit, the second
whether one of them was dark, and so, if none was lit, whether there are any. After
either draw nothing else has changed but the draw flag. -/
theorem draw_twice_erases {m : Machine} {x y n : Fin 16} (hx : x ≠ vf) (hy : y ≠ vf)
    (h : m.index.toNat + n ≤ 4096) :
    ∃ t u, m.execute (Instruction.draw x y n).word = .ok t ∧
      t.execute (Instruction.draw x y n).word = .ok u ∧
      u.display = m.display ∧
      t.Flags (∃ cx cy, m.covered x y n cx cy = true ∧ m.display.lit cx cy = true) ∧
      u.Flags (∃ cx cy, m.covered x y n cx cy = true ∧ m.display.lit cx cy = false) ∧
      ((∀ cx cy, m.covered x y n cx cy = true → m.display.lit cx cy = false) →
        u.Flags (∃ p : Fin n × Fin 8, (m.target? x y p).isSome = true)) ∧
      (∃ flag, t = { m.setReg vf flag with
        display := m.display.toggle (m.covered x y n)
        drawFlag := true }) ∧
      ∃ flag, u = { m.setReg vf flag with drawFlag := true } := by
  let cells := m.covered x y n
  have hagain : (m.inked cells).covered x y n = cells := covered_inked hx hy cells
  have hsecond : (m.inked cells).perform (.draw x y n) = .ok ((m.inked cells).inked cells) := by
    have hsame : (m.inked cells).index = m.index := rfl
    rw [perform_draw (by rw [hsame]; exact h), hagain]
  obtain ⟨flag, hu⟩ := m.inked_inked cells
  have hdark : ((m.inked cells).inked cells).Flags
      (∃ cx cy, cells cx cy = true ∧ m.display.lit cx cy = false) :=
    flags_inked (m.display.meets_toggle cells)
  refine ⟨m.inked cells, (m.inked cells).inked cells, ?_, ?_, ?_, ?_, hdark, ?_, ?_, flag, hu⟩
  · rw [execute_word, perform_draw h]
  · rw [execute_word, hsecond]
  · rw [hu]
    rfl
  · exact flags_inked (m.display.meets_eq_true_iff cells)
  · intro hblank
    have hall : (∃ cx cy, cells cx cy = true ∧ m.display.lit cx cy = false) ↔
        ∃ cx cy, cells cx cy = true :=
      exists₂_congr fun cx cy => and_iff_left_of_imp (hblank cx cy)
    rwa [hall, exists_covered_iff] at hdark
  · exact ⟨_, rfl⟩

/-- The glyph 0 in the lower right corner, on which the cell of its first pixel is lit. -/
def smudged : Machine :=
  { boot ⟨0, 0⟩ .wrap with
    regs := put (Vector.replicate 16 0) v0 62
    display := Display.ofFn fun cx cy => cx.val == 62 && cy.val == 30 }

/-- Both draws meet a lit cell. Without the one that was lit, only the second does. -/
theorem draw_twice_erases_smudged :
    let clean : Machine := { smudged with display := Display.blank }
    (v0 ≠ vf ∧ smudged.index.toNat + 5 ≤ 4096) ∧
    (∃ t u, smudged.execute 0xD005 = .ok t ∧ t.execute 0xD005 = .ok u ∧
      u.display = smudged.display ∧ t.reg vf = 1 ∧ u.reg vf = 1) ∧
    ∃ t u, clean.execute 0xD005 = .ok t ∧ t.execute 0xD005 = .ok u ∧
      u.display = Display.blank ∧ t.reg vf = 0 ∧ u.reg vf = 1 := by
  intro clean
  have hcorner : v0 ≠ vf := by decide
  have hfits : smudged.index.toNat + 5 ≤ 4096 := by decide
  have hlit (cx : Fin 64) (cy : Fin 32) :
      smudged.display.lit cx cy = (cx.val == 62 && cy.val == 30) := by
    simp only [smudged, Display.lit_ofFn]
  refine ⟨⟨hcorner, hfits⟩, ?_, ?_⟩
  · obtain ⟨t, u, ht, hu, hsame, hfirst, hsecond, -⟩ :=
      draw_twice_erases (m := smudged) (n := 5) hcorner hcorner hfits
    refine ⟨t, u, ht, hu, hsame, hfirst.1 ⟨62, 30, ?_, hlit 62 30⟩,
      hsecond.1 ⟨1, 0, ?_, hlit 1 0⟩⟩
    · exact (covered_eq_true_iff ..).mpr ⟨(⟨0, by decide⟩, 0), by decide +kernel⟩
    · -- the last pixel of the third row comes back in at both edges
      exact (covered_eq_true_iff ..).mpr ⟨(⟨2, by decide⟩, 3), by decide +kernel⟩
  · obtain ⟨t, u, ht, hu, hsame, hfirst, -, hblank, -⟩ :=
      draw_twice_erases (m := clean) (n := 5) hcorner hcorner hfits
    have hseen : ∃ p : Fin (5 : Fin 16) × Fin 8, (clean.target? v0 v0 p).isSome = true :=
      ⟨(⟨0, by decide⟩, 0), by decide +kernel⟩
    refine ⟨t, u, ht, hu, hsame, hfirst.2 ?_, (hblank ?_).1 hseen⟩
    · rintro ⟨cx, cy, -, hlit⟩
      rw [show clean.display = Display.blank from rfl, Display.lit_blank] at hlit
      cases hlit
    · exact fun cx cy _ => Display.lit_blank cx cy

end Machine
end Chip8
