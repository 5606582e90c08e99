import Mathlib.Algebra.GroupWithZero.Nat
import Mathlib.Data.Fintype.Prod
import Mathlib.Data.List.Nodup
import Mathlib.Order.Fin.Basic
import Chip8.Proofs.OpenBus

/-!
# Sprites pixel by pixel

A sprite can also be drawn one pixel after the other: a pixel that is set falls on
a cell of the display, meets it if it is lit, and inverts it. The machine asks of
every cell instead which pixel falls on it. The two agree because no two pixels of
a sprite fall on the same cell: a sprite is at most eight cells wide and fifteen
high, which is less than the display, so not even a sprite that wraps meets itself.

Results:
* `Edges.land?_eq_some_iff`: a pixel falls on the cell at its offset.
* `Canvas.foldl_strike`: cells that are inverted one by one, in any order.
* `perform_draw`: DXYN inverts the cells on which a pixel falls, all at once.
* `draw_eq_plot`: DXYN draws what its pixels draw.
-/
namespace Chip8

/-! ## Where pixels fall -/

namespace Edges

/-- The cell at a position on an axis of `size` cells, which can lie past its end. -/
def land? (e : Edges) (size : Nat) [NeZero size] (position : Nat) : Option (Fin size) :=
  match e with
  | .clip => if h : position < size then some ⟨position, h⟩ else none
  | .wrap => some (Fin.ofNat size position)

/-- The pixel at a distance from the corner falls on the cells with that offset. -/
theorem land?_eq_some_iff (e : Edges) {size k : Nat} [NeZero size] (hk : k < size) (corner : Nat)
    (cell : Fin size) :
    e.land? size (corner + k) = some cell ↔ e.offset? size corner cell = some k := by
  have hcell := cell.isLt
  cases e with
  | clip =>
    simp only [land?, offset?]
    constructor
    · intro h
      split at h
      · cases h
        simp
      · cases h
    · intro h
      split at h
      · rename_i hle
        cases h
        rw [dif_pos (by omega)]
        exact congrArg some (Fin.ext (by simp only; omega))
      · cases h
  | wrap =>
    simp only [land?, offset?, Option.some.injEq, Fin.ext_iff, Fin.val_ofNat]
    constructor
    · intro h
      have hmod : ((cell : Int) - corner) % size = k := by
        rw [← h, Int.natCast_emod, Int.emod_sub_emod,
          show ((corner + k : Nat) : Int) - corner = k by omega]
        exact Int.emod_eq_of_lt (by omega) (by omega)
      omega
    · intro h
      have hpos : 0 ≤ ((cell : Int) - corner) % size := Int.emod_nonneg _ (by omega)
      have hmod : ((corner : Int) + k) % size = cell := by
        rw [show (k : Int) = ((cell : Int) - corner) % size by omega, Int.add_emod_emod,
          show (corner : Int) + (cell - corner) = cell by omega]
        exact Int.emod_eq_of_lt (by omega) (by omega)
      exact_mod_cast hmod

end Edges

/-! ## Inverting cells one by one -/

/-- A display that is drawn on, and whether a lit cell was met. -/
structure Canvas where
  display : Display
  collision : Bool

namespace Canvas

def strike (c : Canvas) (cell : Fin 64 × Fin 32) : Canvas where
  display := c.display.toggle fun x y => decide ((x, y) = cell)
  collision := c.collision || c.display.lit cell.1 cell.2

/-- Cells that are inverted one by one, each only once, come out as if they were
inverted all at once; a cell is met as it was before any of them. -/
theorem foldl_strike {cells : List (Fin 64 × Fin 32)} (h : cells.Nodup) (c : Canvas) :
    cells.foldl strike c =
      ⟨c.display.toggle fun x y => decide ((x, y) ∈ cells),
        c.collision || c.display.meets fun x y => decide ((x, y) ∈ cells)⟩ := by
  induction cells generalizing c with
  | nil =>
    have hdark : c.display.meets (fun _ _ => false) = false := by
      rw [← Bool.not_eq_true, Display.meets_eq_true_iff]
      simp
    have hsame : c.display.toggle (fun _ _ => false) = c.display :=
      Display.ext_lit fun x y => by rw [Display.lit_toggle, Bool.xor_false]
    simp [hdark, hsame]
  | cons cell cells ih =>
    obtain ⟨hnew, hrest⟩ := List.nodup_cons.mp h
    rw [List.foldl_cons, ih hrest]
    refine congrArg₂ Canvas.mk ?_ ?_
    · refine Display.ext_lit fun x y => ?_
      simp only [strike, Display.lit_toggle, List.mem_cons]
      by_cases hx : (x, y) = cell
      · subst hx
        simp [hnew]
      · simp [hx]
    · -- the cells behind the first one are met as they were before it was inverted
      rw [Bool.eq_iff_iff]
      simp only [strike, Bool.or_eq_true, Display.meets_eq_true_iff, Display.lit_toggle,
        decide_eq_true_eq, List.mem_cons]
      constructor
      · rintro ((hc | hcell) | ⟨x, y, hmem, hlit⟩)
        · exact .inl hc
        · exact .inr ⟨cell.1, cell.2, .inl rfl, hcell⟩
        · have hne : (x, y) ≠ cell := fun he => hnew (he ▸ hmem)
          refine .inr ⟨x, y, .inr hmem, ?_⟩
          simpa [hne] using hlit
      · rintro (hc | ⟨x, y, rfl | hmem, hlit⟩)
        · exact .inl (.inl hc)
        · exact .inl (.inr hlit)
        · have hne : (x, y) ≠ cell := fun he => hnew (he ▸ hmem)
          refine .inr ⟨x, y, hmem, ?_⟩
          simpa [hne] using hlit

end Canvas

namespace Machine

variable {m : Machine} {x y n : Fin 16}

/-! ## Drawing pixels -/

/-- The cell on which the pixel in a row and a column of the sprite at I falls, if
the pixel is set and falls on the display. -/
def target? (m : Machine) (x y : Fin 16) {n : Nat} (p : Fin n × Fin 8) :
    Option (Fin 64 × Fin 32) :=
  if m.memory[m.index.toNat + p.1]?.any fun byte => byte.toNat.testBit (7 - p.2) then
    match m.edges.land? 64 ((m.reg x).toNat + p.2), m.edges.land? 32 ((m.reg y).toNat + p.1) with
    | some cx, some cy => some (cx, cy)
    | _, _ => none
  else none

/-- Draws one pixel of a sprite. -/
def plot (m : Machine) (x y : Fin 16) {n : Nat} (c : Canvas) (p : Fin n × Fin 8) : Canvas :=
  match m.target? x y p with
  | none => c
  | some cell => c.strike cell

theorem target?_eq_some_iff (p : Fin n × Fin 8) (cx : Fin 64) (cy : Fin 32) :
    m.target? x y p = some (cx, cy) ↔
      m.memory[m.index.toNat + p.1]?.any (fun byte => byte.toNat.testBit (7 - p.2)) = true ∧
        m.edges.offset? 64 (m.reg x).toNat cx = some p.2.val ∧
        m.edges.offset? 32 (m.reg y).toNat cy = some p.1.val := by
  have hrow : p.1.val < 32 := by omega
  have hcol : p.2.val < 64 := by omega
  rw [← m.edges.land?_eq_some_iff hrow, ← m.edges.land?_eq_some_iff hcol, target?]
  split
  · rename_i hset
    split
    · rename_i hx hy
      simp [hset, hx, hy]
    · rename_i hnone
      simp only [reduceCtorEq, hset, true_and, false_iff]
      rintro ⟨hx, hy⟩
      exact hnone _ _ hx hy
  · rename_i hset
    simp [hset]

/-- No two pixels of a sprite fall on the same cell. -/
theorem target?_inj {p q : Fin n × Fin 8} {cell : Fin 64 × Fin 32}
    (hp : m.target? x y p = some cell) (hq : m.target? x y q = some cell) : p = q := by
  obtain ⟨-, hpx, hpy⟩ := (target?_eq_some_iff p _ _).mp hp
  obtain ⟨-, hqx, hqy⟩ := (target?_eq_some_iff q _ _).mp hq
  have hcol : p.2.val = q.2.val := Option.some.inj (hpx.symm.trans hqx)
  have hrow : p.1.val = q.1.val := Option.some.inj (hpy.symm.trans hqy)
  exact Prod.ext (Fin.ext hrow) (Fin.ext hcol)

/-- The cells of a sprite are those on which its pixels fall. -/
theorem cells_eq_true_iff {rows : List UInt8}
    (h : readBlock? m.memory m.index.toNat n = some rows) (cx : Fin 64) (cy : Fin 32) :
    Sprite.cells ⟨(m.reg x).toNat, (m.reg y).toNat, rows⟩ m.edges cx cy = true ↔
      ∃ p : Fin n × Fin 8, m.target? x y p = some (cx, cy) := by
  obtain ⟨hb, rfl⟩ := readBlock?_eq_some h
  simp only [target?_eq_some_iff]
  constructor
  · intro hcell
    simp only [Sprite.cells] at hcell
    split at hcell
    · cases hcell
    · rename_i r hr
      simp only [List.length_ofFn, Bool.and_eq_true, decide_eq_true_eq] at hcell
      obtain ⟨hlt, hcell⟩ := hcell
      split at hcell
      · cases hcell
      · rename_i c hc
        have hread : m.index.toNat + r < 4096 := by omega
        simp only [Sprite.bit, List.getElem?_ofFn, dif_pos hlt] at hcell
        -- the picture has no ones past the eighth column
        have h8 : c < 8 := Nat.lt_of_not_le fun hge => by
          rw [BitVec.getMsbD_of_ge _ _ hge] at hcell
          cases hcell
        refine ⟨(⟨r, hlt⟩, ⟨c, h8⟩), ?_, hc, hr⟩
        rw [Vector.getElem?_eq_getElem hread, Option.any_some, testBit_eq_getMsbD _ h8]
        exact hcell
  · rintro ⟨⟨r, c⟩, hset, hc, hr⟩
    have hread : m.index.toNat + r.val < 4096 := by omega
    rw [Vector.getElem?_eq_getElem hread, Option.any_some, testBit_eq_getMsbD _ c.isLt] at hset
    simp only [Sprite.cells, hr, hc, Sprite.bit, List.length_ofFn, List.getElem?_ofFn,
      dif_pos r.isLt, hset, decide_eq_true r.isLt, Bool.and_self]

/-! ## Drawing all pixels at once -/

/-- The cells that the sprite at I covers: those on which one of its pixels falls. -/
def covered (m : Machine) (x y n : Fin 16) : CellSet := fun cx cy =>
  decide (∃ p : Fin n × Fin 8, m.target? x y p = some (cx, cy))

theorem covered_eq_true_iff (cx : Fin 64) (cy : Fin 32) :
    m.covered x y n cx cy = true ↔ ∃ p : Fin n × Fin 8, m.target? x y p = some (cx, cy) :=
  decide_eq_true_iff

theorem covered_eq_cells {rows : List UInt8}
    (h : readBlock? m.memory m.index.toNat n = some rows) :
    m.covered x y n = Sprite.cells ⟨(m.reg x).toNat, (m.reg y).toNat, rows⟩ m.edges := by
  funext cx cy
  rw [Bool.eq_iff_iff, cells_eq_true_iff h, covered_eq_true_iff]

/-- The machine with a set of cells inverted, and in VF whether one of them was lit. -/
def inked (m : Machine) (cells : CellSet) : Machine :=
  { m.setReg vf (Arith.flagOf (m.display.meets cells)) with
    display := m.display.toggle cells
    drawFlag := true }

theorem reg_inked (m : Machine) (cells : CellSet) (j : Fin 16) :
    (m.inked cells).reg j = (m.setReg vf (Arith.flagOf (m.display.meets cells))).reg j := by
  simp only [inked, reg]

theorem perform_draw (h : m.index.toNat + n ≤ 4096) :
    m.perform (.draw x y n) = .ok (m.inked (m.covered x y n)) := by
  obtain ⟨rows, hrows⟩ := exists_readBlock? m.memory h
  simp only [perform, hrows, drawSprite, inked, covered_eq_cells hrows]

/-! ## Drawing pixels one by one -/

/-- Pixels that are drawn one by one invert the cells on which they fall. -/
theorem foldl_plot (order : List (Fin n × Fin 8)) (c : Canvas) :
    order.foldl (m.plot x y) c = (order.filterMap (m.target? x y)).foldl Canvas.strike c := by
  rw [List.foldl_filterMap]
  congr 1
  funext c p
  unfold plot
  cases m.target? x y p <;> rfl

theorem nodup_targets {order : List (Fin n × Fin 8)} (h : order.Nodup) :
    (order.filterMap (m.target? x y)).Nodup :=
  List.Nodup.filterMap (fun _ _ _ hp hq => target?_inj hp hq) h

/-- **Sprites.** If its rows lie in memory, DXYN draws what its pixels draw one by
one, in any order that takes each of them once: a set pixel that falls on the
display inverts its cell, and VF tells whether any of them met a lit one. The
corner is read before VF is written. Nothing else changes but the draw flag. -/
theorem draw_eq_plot {m : Machine} {x y n : Fin 16} (h : m.index.toNat + n ≤ 4096)
    {order : List (Fin n × Fin 8)} (hnodup : order.Nodup) (hall : ∀ p, p ∈ order) :
    let c : Canvas := order.foldl (m.plot x y) ⟨m.display, false⟩
    m.execute (Instruction.draw x y n).word =
      .ok { m.setReg vf (if c.collision then 1 else 0) with
        display := c.display
        drawFlag := true } := by
  intro c
  have hcells : (fun cx cy => decide ((cx, cy) ∈ order.filterMap (m.target? x y))) =
      m.covered x y n := by
    funext cx cy
    rw [Bool.eq_iff_iff, covered_eq_true_iff, decide_eq_true_eq, List.mem_filterMap]
    exact ⟨fun ⟨p, _, hp⟩ => ⟨p, hp⟩, fun ⟨p, hp⟩ => ⟨p, hall p, hp⟩⟩
  have hc : c = ⟨m.display.toggle _, m.display.meets _⟩ :=
    (foldl_plot order _).trans (Canvas.foldl_strike (nodup_targets hnodup) _)
  rw [hcells] at hc
  rw [execute_word, perform_draw h, inked, hc]
  rfl

/-- The glyph 0 in the lower right corner, with VF as its row. -/
def plotted : Machine :=
  { boot ⟨0, 0⟩ .wrap with regs := put (put (Vector.replicate 16 0) v0 62) vf 30 }

theorem draw_eq_plot_plotted :
    let order := (List.finRange 8).flatMap fun c => (List.finRange 5).map fun r => (r, c)
    let c := order.foldl (plotted.plot v0 vf) ⟨plotted.display, false⟩
    plotted.index.toNat + 5 ≤ 4096 ∧
      plotted.execute 0xD0F5 = .ok { plotted.setReg vf (if c.collision then 1 else 0) with
        display := c.display
        drawFlag := true } := by
  intro order c
  have hall : ∀ p, p ∈ order := fun (row, column) =>
    List.mem_flatMap.mpr ⟨column, List.mem_finRange column,
      List.mem_map_of_mem (List.mem_finRange row)⟩
  have hfits : plotted.index.toNat + 5 ≤ 4096 := by decide
  exact ⟨hfits, draw_eq_plot (m := plotted) (x := v0) (y := vf) (n := 5) hfits (by decide) hall⟩

end Machine
end Chip8
