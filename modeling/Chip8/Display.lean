/-!
# The display

A display is 64 by 32 cells, each lit or dark. Everything that draws is said
cell by cell: `Display.ofFn` builds a display from a rule and `Display.lit`
reads it, and a display is determined by its lit cells (`ext_lit`).
-/
namespace Chip8

/-- The cells of the display, row after row from the top. -/
structure Display where
  cells : Vector Bool 2048
  deriving DecidableEq, Repr

abbrev CellSet := Fin 64 → Fin 32 → Bool

namespace Display

/-- Whether the cell in column `x` and row `y` is lit. -/
def lit (d : Display) (x : Fin 64) (y : Fin 32) : Bool :=
  have h : 64 * y.val + x.val < 2048 := by have := x.isLt; have := y.isLt; omega
  d.cells[64 * y.val + x.val]

/-- The display that lights exactly the cells of a set. -/
def ofFn (f : CellSet) : Display :=
  ⟨Vector.ofFn fun k : Fin 2048 =>
    f ⟨k.val % 64, Nat.mod_lt _ (by decide)⟩ ⟨k.val / 64, by have := k.isLt; omega⟩⟩

theorem lit_ofFn (f : CellSet) (x : Fin 64) (y : Fin 32) : (ofFn f).lit x y = f x y := by
  have hx : (64 * y.val + x.val) % 64 = x.val := by have := x.isLt; omega
  have hy : (64 * y.val + x.val) / 64 = y.val := by have := x.isLt; omega
  simp only [lit, ofFn, Vector.getElem_ofFn]
  congr 1 <;> exact Fin.ext (by assumption)

theorem ext_lit {d e : Display} (h : ∀ x y, d.lit x y = e.lit x y) : d = e := by
  obtain ⟨d⟩ := d
  obtain ⟨e⟩ := e
  congr 1
  apply Vector.ext
  intro k hk
  have := h ⟨k % 64, Nat.mod_lt _ (by decide)⟩ ⟨k / 64, by omega⟩
  simpa only [lit, Nat.div_add_mod] using this

def blank : Display := ofFn fun _ _ => false

def toggle (d : Display) (s : CellSet) : Display := ofFn fun x y => d.lit x y ^^ s x y

def meets (d : Display) (s : CellSet) : Bool :=
  (List.finRange 32).any fun y => (List.finRange 64).any fun x => s x y && d.lit x y

theorem lit_blank (x : Fin 64) (y : Fin 32) : blank.lit x y = false := lit_ofFn ..

theorem lit_toggle (d : Display) (s : CellSet) (x : Fin 64) (y : Fin 32) :
    (d.toggle s).lit x y = (d.lit x y ^^ s x y) := lit_ofFn ..

theorem meets_eq_true_iff (d : Display) (s : CellSet) :
    d.meets s = true ↔ ∃ x y, s x y = true ∧ d.lit x y = true := by
  simp only [meets, List.any_eq_true, List.mem_finRange, true_and, Bool.and_eq_true]
  exact exists_comm

end Display
end Chip8
