import Chip8.Image.Photograph
import Chip8.Proofs.Delimited

/-!
# How strong the waves of a picture are

The waves of a block of pixels are bounded (`Block.square_analyse`), and in the steps of
the tables their strengths are 205 at most (`Block.square_reduce`).

* `Photograph.content_sized`: all strengths that a photograph holds are within that bound.
-/
namespace Chip8

/-- Blocks of eight rows of eight numbers of a kind. -/
abbrev Square (P : Int → Prop) (b : Block) : Prop := Each 8 (Each 8 P) b

/-- A number that a byte holds. -/
def Bytewise (n : Int) : Prop := 0 ≤ n ∧ n ≤ 255

namespace Block

theorem natAbs_dot_le {bound : Nat} {row : List Int} (hrow : ∀ a ∈ row, a.natAbs ≤ bound)
    (w : List Int) : (dot w row).natAbs ≤ (w.map Int.natAbs).sum * bound := by
  induction w generalizing row with
  | nil => simp [dot]
  | cons a w ih =>
    cases row with
    | nil => simp [dot]
    | cons b row =>
      obtain ⟨hb, hrow⟩ := List.forall_mem_cons.mp hrow
      have hmul := Nat.mul_le_mul_left a.natAbs hb
      have hrest := ih hrow
      have htriangle := Int.natAbs_add_le (a * b) (dot w row)
      rw [Int.natAbs_mul] at htriangle
      rw [dot, List.map_cons, List.sum_cons, Nat.add_mul]
      omega

/-- The weights of a wave add up to 65536 at most. -/
theorem sum_waves_le : ∀ w ∈ waves, (w.map Int.natAbs).sum ≤ 65536 := by decide

theorem length_waves : waves.length = 8 := rfl

theorem natAbs_round_le {d : Int} {unit bound : Nat} (hunit : 0 < unit)
    (hd : d.natAbs ≤ unit * bound) : ((d + unit / 2) / unit).natAbs ≤ bound := by
  have hpos : (0 : Int) < unit := Int.natCast_pos.mpr hunit
  have hdist : (d.natAbs : Int) ≤ unit * bound := by exact_mod_cast hd
  have hlow : -(bound : Int) ≤ (d + unit / 2) / unit := by
    refine Int.le_ediv_of_mul_le hpos ?_
    rw [Int.neg_mul, Int.mul_comm]
    omega
  have hhigh : (d + unit / 2) / unit < bound + 1 := by
    refine Int.ediv_lt_of_lt_mul hpos ?_
    rw [Int.add_mul, Int.mul_comm, Int.one_mul]
    omega
  omega

theorem each_product (unit : Nat) (hunit : 0 < unit) {row : List Int} {bound limit : Nat}
    (hlimit : 65536 * bound ≤ unit * limit) (hrow : Each 8 (·.natAbs ≤ bound) row) :
    Each 8 (·.natAbs ≤ limit) (product unit waves row) := by
  refine Each.map (P := fun w : List Int => (w.map Int.natAbs).sum ≤ 65536)
    ⟨length_waves, sum_waves_le⟩ fun w hw => natAbs_round_le hunit ?_
  calc (dot w row).natAbs ≤ (w.map Int.natAbs).sum * bound := natAbs_dot_le hrow.all w
    _ ≤ 65536 * bound := Nat.mul_le_mul_right bound hw
    _ ≤ unit * limit := hlimit

theorem square_analyse {b : Block} (h : Square (·.natAbs ≤ 128) b) :
    Square (·.natAbs ≤ 8192) (analyse b) := by
  have hrows : Square (·.natAbs ≤ 4096) (b.map (product 2048 waves)) :=
    h.map fun row => each_product 2048 (by decide) (by decide)
  have hcolumns := hrows.columns (by decide)
  have hboth : Square (·.natAbs ≤ 8192)
      ((columns (b.map (product 2048 waves))).map (product 32768 waves)) :=
    hcolumns.map fun row => each_product 32768 (by decide) (by decide)
  exact hboth.columns (by decide)

theorem natAbs_steps_le {step strength : Int} (hstep : 5 ≤ step) (h : strength.natAbs ≤ 8192) :
    (steps step strength).natAbs ≤ 205 := by
  have hquotient : ∀ size : Int, 0 ≤ size → size ≤ 8192 →
      0 ≤ (4 * step + size) / (8 * step) ∧ (4 * step + size) / (8 * step) < 206 := by
    intro size hlow hhigh
    exact ⟨Int.ediv_nonneg (by omega) (by omega), Int.ediv_lt_of_lt_mul (by omega) (by omega)⟩
  rw [steps]
  split
  · have hsize := hquotient (-strength) (by omega) (by omega)
    rw [← Int.sub_eq_add_neg] at hsize
    omega
  · have hsize := hquotient strength (by omega) (by omega)
    omega

theorem square_reduce {table b : Block} (ht : Square (5 ≤ ·) table)
    (h : Square Bytewise b) : Square (·.natAbs ≤ 205) (reduce table b) := by
  have hcentred : Square (·.natAbs ≤ 128) (b.map (·.map (· - 128))) :=
    h.map fun row hrow => hrow.map fun n hn => by
      obtain ⟨hlow, hhigh⟩ := hn
      omega
  exact ht.zipWith (square_analyse hcentred) fun row row' hrow hrow' =>
    hrow.zipWith hrow' fun step strength => natAbs_steps_le

end Block

theorem Each.exists_pair {α : Type} {n : Nat} {P : α → Prop} {items : List α}
    (h : Each ((n + 1) * 2) P items) :
    ∃ a b rest, items = a :: b :: rest ∧ P a ∧ P b ∧ Each (n * 2) P rest := by
  rw [Nat.succ_mul] at h
  obtain ⟨a, rest, rfl, ha, h⟩ := h.exists_cons
  obtain ⟨b, rest, rfl, hb, h⟩ := h.exists_cons
  exact ⟨a, b, rest, rfl, ha, hb, h⟩

namespace Plane

theorem each_blocks {a b : Nat} {P : Int → Prop} {p : Plane} (h : Each (a * 8) (Each (b * 8) P) p) :
    Each a (Each b (Square P)) p.blocks :=
  (h.pieces (by decide)).map fun band hband =>
    Each.columns (by decide) (hband.map fun row hrow => hrow.pieces (by decide))

theorem each_means {n : Nat} {bias : Int} (hbias : bias = 1 ∨ bias = 2) {upper lower : List Int}
    (hu : Each (n * 2) Bytewise upper) (hl : Each (n * 2) Bytewise lower) :
    Each n Bytewise (means bias upper lower) := by
  induction n generalizing bias upper lower with
  | zero =>
    rw [Nat.zero_mul] at hu
    obtain rfl := hu.eq_nil
    exact .nil
  | succ n ih =>
    obtain ⟨a, b, upper, rfl, ha, hb, hu⟩ := hu.exists_pair
    obtain ⟨c, d, lower, rfl, hc, hd, hl⟩ := hl.exists_pair
    have hmean : Bytewise ((a + b + c + d + bias) / 4) := by
      simp only [Bytewise] at ha hb hc hd ⊢
      omega
    exact .cons hmean (ih (by omega) hu hl)

theorem each_halve {m n : Nat} {p : Plane} (h : Each (m * 2) (Each (n * 2) Bytewise) p) :
    Each m (Each n Bytewise) p.halve := by
  induction m generalizing p with
  | zero =>
    rw [Nat.zero_mul] at h
    obtain rfl := h.eq_nil
    exact .nil
  | succ m ih =>
    obtain ⟨upper, lower, rest, rfl, hupper, hlower, hrest⟩ := h.exists_pair
    exact .cons (each_means (.inl rfl) hupper hlower) (ih hrest)

end Plane

theorem Colour.bytewise_tone (c : Colour) :
    Bytewise c.tone.brightness ∧ Bytewise c.tone.blue ∧ Bytewise c.tone.red := by
  have hr := c.red.toNat_lt
  have hg := c.green.toNat_lt
  have hb := c.blue.toNat_lt
  simp only [Bytewise, tone]
  omega

namespace Photograph

/-- The content of pictures of `a` by `b` squares of sixteen. -/
structure Content.Sized (a b : Nat) (c : Content) : Prop where
  brightness : Each (a * 2) (Each (b * 2) (Square (·.natAbs ≤ 205))) c.brightness
  blue : Each a (Each b (Square (·.natAbs ≤ 205))) c.blue
  red : Each a (Each b (Square (·.natAbs ≤ 205))) c.red

/-- The steps of a table are fives at least. -/
theorem square_tables : Square (5 ≤ ·) sharp ∧ Square (5 ≤ ·) coarse := by
  have hsquare : ∀ b : Block, (b.length = 8 ∧ ∀ row ∈ b, row.length = 8 ∧ ∀ n ∈ row, 5 ≤ n) →
      Square (5 ≤ ·) b := fun b h => ⟨h.1, fun row hrow => ⟨(h.2 row hrow).1, (h.2 row hrow).2⟩⟩
  exact ⟨hsquare sharp (by decide), hsquare coarse (by decide)⟩

theorem content_sized {a b : Nat} {i : Image}
    (hi : Each (a * 16) (Each (b * 16) fun _ => True) i.rows) : (content i).Sized a b := by
  have hplane : ∀ part : Tone → Int, (∀ c : Colour, Bytewise (part c.tone)) →
      Each (a * 16) (Each (b * 16) Bytewise)
        ((i.rows.map (·.map Colour.tone)).map (·.map part)) := by
    intro part hpart
    rw [List.map_map]
    refine hi.map fun row hrow => ?_
    rw [Function.comp_apply, List.map_map]
    exact hrow.map fun c _ => hpart c
  have hreduce : ∀ {m n : Nat} {table : Block} {p : Plane}, Square (5 ≤ ·) table →
      Each (m * 8) (Each (n * 8) Bytewise) p →
      Each m (Each n (Square (·.natAbs ≤ 205))) (p.blocks.map (·.map (Block.reduce table))) :=
    fun ht hp => (Plane.each_blocks hp).map fun band hband =>
      hband.map fun block => Block.square_reduce ht
  have hhalf : ∀ part : Tone → Int, (∀ c : Colour, Bytewise (part c.tone)) →
      Each (a * 8) (Each (b * 8) Bytewise)
        (Plane.halve ((i.rows.map (·.map Colour.tone)).map (·.map part))) := by
    intro part hpart
    refine Plane.each_halve ?_
    rw [Nat.mul_assoc, Nat.mul_assoc]
    exact hplane part hpart
  refine ⟨hreduce square_tables.1 ?_, hreduce square_tables.2 ?_, hreduce square_tables.2 ?_⟩
  · rw [Nat.mul_assoc, Nat.mul_assoc]
    exact hplane _ fun c => c.bytewise_tone.1
  · exact hhalf _ fun c => c.bytewise_tone.2.1
  · exact hhalf _ fun c => c.bytewise_tone.2.2

end Photograph
end Chip8
