import Chip8.Image.Render

/-!
# Pictures, pixel by pixel

`Image.Shows` says what a picture of a display looks like: each cell is a square
of pixels in one of the two colours of a palette. A picture is made by repeating
items of lists, first the pixels of every row and then the rows, so a pixel is
found by dividing its place by the scale (`pixel?_upscale`).

Of a grid of the right shape only the cells of a display are looked at (`Grid.display`).
Everything else that can be handed over is refused, and the first part out of range is the
one that is named (`firstOutside?`).

Results:
* `getElem?_repeatEach`, `length_repeatEach`: what repeating items yields.
* `pixel?_upscale`, `pixel?_ofCells`: the pixels of a picture.
* `upscale_upscale`: scaling twice is scaling by the product.
* `Image.Shows.display_eq`: in two colours a picture shows one display.
* `toColour_eq`, `spec_bytes`: colours whose parts are bytes, and others.
* `render_eq`: what becomes of a grid of the right shape.
* `render_grid`: the picture of a display shows it.
* `render_exact`: all of it.
-/
namespace Chip8

def Grid.display (g : Grid) : Display := Display.ofFn fun x y => g.lit x y

theorem Display.display_grid (d : Display) : d.grid.display = d := by
  refine Display.ext_lit fun x y => ?_
  rw [Grid.display, Display.lit_ofFn]
  exact dif_pos ⟨x.isLt, y.isLt⟩

namespace Image

/-- The pixel in column `x` and row `y`, if the picture has it. -/
def pixel? (i : Image) (x y : Nat) : Option Colour := i.rows[y]?.bind fun row => row[x]?

/-- The picture consists of the cells of a display, each a square of `scale` by
`scale` pixels in the colours of a palette. -/
structure Shows (i : Image) (d : Display) (p : Palette) (scale : Nat) : Prop where
  height : i.rows.length = 32 * scale
  width : ∀ row ∈ i.rows, row.length = 64 * scale
  pixel : ∀ x y (hx : x / scale < 64) (hy : y / scale < 32),
    i.pixel? x y = some (if d.lit ⟨x / scale, hx⟩ ⟨y / scale, hy⟩ then p.lit else p.dark)

/-! ## Repeated items -/

variable {α : Type} {n : Nat}

theorem length_repeatEach (n : Nat) (items : List α) :
    (repeatEach n items).length = items.length * n := by
  induction items with
  | nil => simp [repeatEach]
  | cons a items ih =>
    unfold repeatEach at ih ⊢
    rw [List.flatMap_cons, List.length_append, ih, List.length_replicate, List.length_cons,
      Nat.succ_mul, Nat.add_comm]

theorem mem_of_mem_repeatEach {a : α} {items : List α} (h : a ∈ repeatEach n items) :
    a ∈ items := by
  obtain ⟨b, hb, ha⟩ := List.mem_flatMap.mp h
  rwa [List.eq_of_mem_replicate ha]

theorem getElem?_repeatEach (hn : 0 < n) (items : List α) (k : Nat) :
    (repeatEach n items)[k]? = items[k / n]? := by
  induction items generalizing k with
  | nil => simp [repeatEach]
  | cons a items ih =>
    show (List.replicate n a ++ repeatEach n items)[k]? = _
    by_cases hk : k < n
    · rw [List.getElem?_append_left (by rwa [List.length_replicate]), List.getElem?_replicate,
        if_pos hk, Nat.div_eq_of_lt hk, List.getElem?_cons_zero]
    · have hdiv : k / n = (k - n) / n + 1 := by
        rw [← Nat.add_div_right _ hn, Nat.sub_add_cancel (Nat.not_lt.mp hk)]
      rw [List.getElem?_append_right (by rw [List.length_replicate]; omega),
        List.length_replicate, ih, hdiv, List.getElem?_cons_succ]

/-! ## Pixels -/

theorem pixel?_upscale (hn : 0 < n) (i : Image) (x y : Nat) :
    (i.upscale n).pixel? x y = i.pixel? (x / n) (y / n) := by
  simp only [pixel?, upscale, getElem?_repeatEach hn, List.getElem?_map]
  cases i.rows[y / n]? with
  | none => rfl
  | some row => exact getElem?_repeatEach hn row x

theorem pixel?_ofCells (lit : Nat → Nat → Bool) (p : Palette) {x y : Nat} (hx : x < 64)
    (hy : y < 32) : (ofCells lit p).pixel? x y = some (if lit x y then p.lit else p.dark) := by
  simp only [pixel?, ofCells, List.getElem?_map, List.getElem?_range hy, Option.map_some,
    Option.bind_some, List.getElem?_range hx]

/-- The picture of the cells of a grid shows its display. -/
theorem shows_upscale (g : Grid) (p : Palette) (hn : 0 < n) :
    ((ofCells g.lit p).upscale n).Shows g.display p n where
  height := by
    rw [upscale, length_repeatEach, List.length_map, ofCells, List.length_map, List.length_range]
  width := by
    intro row hrow
    obtain ⟨cells, hcells, rfl⟩ := List.mem_map.mp (mem_of_mem_repeatEach hrow)
    obtain ⟨y, -, rfl⟩ := List.mem_map.mp hcells
    rw [length_repeatEach, List.length_map, List.length_range]
  pixel := by
    intro x y hx hy
    rw [pixel?_upscale hn, pixel?_ofCells _ _ hx hy, Grid.display, Display.lit_ofFn]

/-- In two colours a picture shows one display at most. -/
theorem Shows.display_eq {i : Image} {d e : Display} {p : Palette} (hd : i.Shows d p n)
    (he : i.Shows e p n) (hn : 0 < n) (hp : p.lit ≠ p.dark) : d = e := by
  refine Display.ext_lit fun x y => ?_
  have hx : n * x.val / n = x.val := Nat.mul_div_cancel_left _ hn
  have hy : n * y.val / n = y.val := Nat.mul_div_cancel_left _ hn
  have hpixel := hd.pixel (n * x) (n * y) (by omega) (by omega)
  rw [he.pixel (n * x) (n * y) (by omega) (by omega)] at hpixel
  simp only [hx, hy, Option.some.injEq] at hpixel
  cases hlit : d.lit x y <;> cases hlit' : e.lit x y <;> simp_all

/-! ## Scales -/

theorem repeatEach_repeatEach {a b : Nat} (ha : 0 < a) (hb : 0 < b) (items : List α) :
    repeatEach b (repeatEach a items) = repeatEach (a * b) items := by
  apply List.ext_getElem?
  intro k
  rw [getElem?_repeatEach hb, getElem?_repeatEach ha, getElem?_repeatEach (Nat.mul_pos ha hb),
    Nat.div_div_eq_div_mul, Nat.mul_comm]

theorem map_repeatEach {β : Type} (f : α → β) (items : List α) :
    (repeatEach n items).map f = repeatEach n (items.map f) := by
  simp only [repeatEach, List.map_flatMap, List.map_replicate, List.flatMap_map]

/-- Scaling twice is scaling by the product. -/
theorem upscale_upscale {a b : Nat} (ha : 0 < a) (hb : 0 < b) (i : Image) :
    (i.upscale a).upscale b = i.upscale (a * b) := by
  simp only [upscale, map_repeatEach, List.map_map, repeatEach_repeatEach ha hb, Function.comp_def]

end Image

/-! ## Colours -/

/-- The parts of a colour, in the order in which they are looked at. -/
def ColourSpec.parts (c : ColourSpec) : List Int := [c.red, c.green, c.blue]

/-- Whether a part can stand in a byte. -/
def isByte (part : Int) : Bool := 0 ≤ part ∧ part ≤ 255

/-- The first part that cannot. -/
def firstOutside? (parts : List Int) : Option Int := parts.find? fun part => !isByte part

/-- The colour whose parts are those given, where they are bytes. -/
def ColourSpec.bytes (c : ColourSpec) : Colour :=
  ⟨UInt8.ofNat c.red.toNat, UInt8.ofNat c.green.toNat, UInt8.ofNat c.blue.toNat⟩

theorem isByte_iff {part : Int} : isByte part = true ↔ 0 ≤ part ∧ part ≤ 255 := decide_eq_true_iff

theorem firstOutside?_eq_none_iff {parts : List Int} :
    firstOutside? parts = none ↔ ∀ part ∈ parts, 0 ≤ part ∧ part ≤ 255 := by
  simp only [firstOutside?, List.find?_eq_none, Bool.not_eq_true, Bool.not_eq_false', isByte_iff]

theorem colourPart_eq (part : Int) : colourPart part =
    if isByte part then .ok (UInt8.ofNat part.toNat) else .error (.colour part) := by
  simp only [colourPart, isByte_iff]

/-- The first part out of range is the one that is refused. -/
theorem toColour_eq (c : ColourSpec) : c.toColour =
    match firstOutside? c.parts with
    | some part => .error (.colour part)
    | none => .ok c.bytes := by
  by_cases hred : isByte c.red <;> by_cases hgreen : isByte c.green <;>
    by_cases hblue : isByte c.blue <;>
    simp [ColourSpec.toColour, colourPart_eq, firstOutside?, ColourSpec.parts, ColourSpec.bytes,
      hred, hgreen, hblue]

theorem spec_bytes {c : ColourSpec} (h : firstOutside? c.parts = none) : c.bytes.spec = c := by
  have hbyte : ∀ part ∈ c.parts, ((UInt8.ofNat part.toNat).toNat : Int) = part := by
    intro part hpart
    have hrange := firstOutside?_eq_none_iff.mp h part hpart
    rw [UInt8.toNat_ofNat_of_lt' (by simp only [UInt8.size]; omega)]
    omega
  simp only [ColourSpec.parts, List.forall_mem_cons] at hbyte
  obtain ⟨hred, hgreen, hblue, -⟩ := hbyte
  simp only [Colour.spec, ColourSpec.bytes, hred, hgreen, hblue]

theorem firstOutside?_spec (k : Colour) : firstOutside? k.spec.parts = none := by
  have hbyte : ∀ b : UInt8, (0 : Int) ≤ b.toNat ∧ (b.toNat : Int) ≤ 255 := by
    intro b
    have := b.toNat_lt
    omega
  rw [firstOutside?_eq_none_iff]
  simp [Colour.spec, ColourSpec.parts, hbyte]

theorem bytes_spec (k : Colour) : k.spec.bytes = k := by
  simp [Colour.spec, ColourSpec.bytes]

/-! ## Displays -/

/-- A grid of the right shape is refused for the first part out of range of the two
colours, the dark one before the lit one, or is pictured. -/
theorem render_eq {g : Grid} {scale : Int} (hs : 1 ≤ scale) (hg : g.shape = [64, 32])
    (lit dark : ColourSpec) : render g scale lit dark =
      match firstOutside? (dark.parts ++ lit.parts) with
      | some part => .error (.colour part)
      | none => .ok ((Image.ofCells g.lit ⟨lit.bytes, dark.bytes⟩).upscale scale.toNat) := by
  rw [render, if_neg (by omega), if_neg (not_not_intro hg), toColour_eq, toColour_eq]
  have happend : firstOutside? (dark.parts ++ lit.parts) =
      (firstOutside? dark.parts).or (firstOutside? lit.parts) := List.find?_append
  rw [happend]
  cases firstOutside? dark.parts with
  | some part => rfl
  | none => cases firstOutside? lit.parts <;> rfl

/-- A display can be rendered at every scale and in every palette, and the
picture shows it. -/
theorem render_grid (d : Display) (p : Palette) {scale : Int} (hscale : 1 ≤ scale) :
    ∃ i, render d.grid scale p.lit.spec p.dark.spec = .ok i ∧ i.Shows d p scale.toNat := by
  have hnone : firstOutside? (p.dark.spec.parts ++ p.lit.spec.parts) = none := by
    rw [firstOutside?_eq_none_iff, List.forall_mem_append, ← firstOutside?_eq_none_iff,
      ← firstOutside?_eq_none_iff]
    exact ⟨firstOutside?_spec p.dark, firstOutside?_spec p.lit⟩
  have hshows := Image.shows_upscale d.grid p (n := scale.toNat) (by omega)
  rw [d.display_grid] at hshows
  refine ⟨_, ?_, hshows⟩
  rw [render_eq hscale rfl, hnone, bytes_spec, bytes_spec]

/-- **Pictures.** A scale below 1 is refused, then a shape other than 64 by 32, then the
first colour part out of range, whether or not that colour is needed. Otherwise there is a
picture, and it shows the display: in two colours no other one, and at `b` times the scale
every pixel is repeated `b` times in both directions. -/
theorem render_exact (g : Grid) (scale : Int) (lit dark : ColourSpec) :
    (scale < 1 → render g scale lit dark = .error (.scale scale)) ∧
    (1 ≤ scale → g.shape ≠ [64, 32] → render g scale lit dark = .error (.shape g.shape)) ∧
    (1 ≤ scale → g.shape = [64, 32] → ∀ part,
      firstOutside? (dark.parts ++ lit.parts) = some part →
        render g scale lit dark = .error (.colour part)) ∧
    (1 ≤ scale → g.shape = [64, 32] → (∀ part ∈ dark.parts ++ lit.parts, 0 ≤ part ∧ part ≤ 255) →
      ∃ i p, render g scale lit dark = .ok i ∧ p.lit.spec = lit ∧ p.dark.spec = dark ∧
        i.Shows g.display p scale.toNat ∧
        (lit ≠ dark → ∀ h : Grid, h.shape = [64, 32] → render h scale lit dark = .ok i →
          h.display = g.display) ∧
        ∀ b : Nat, 0 < b → ∃ j, render g (scale * b) lit dark = .ok j ∧ j = i.upscale b ∧
          ∀ x y, j.pixel? x y = i.pixel? (x / b) (y / b)) := by
  refine ⟨fun hs => ?_, fun hs hg => ?_, fun hs hg part hpart => ?_, fun hs hg hparts => ?_⟩
  · rw [render, if_pos hs]
  · rw [render, if_neg (by omega), if_pos hg]
  · rw [render_eq hs hg, hpart]
  · have hnone := firstOutside?_eq_none_iff.mpr hparts
    rw [List.forall_mem_append] at hparts
    have hdark := spec_bytes (firstOutside?_eq_none_iff.mpr hparts.1)
    have hlit := spec_bytes (firstOutside?_eq_none_iff.mpr hparts.2)
    have hpos : 0 < scale.toNat := by omega
    -- what every grid of the right shape gives, at every scale
    have hrender : ∀ (h : Grid) (s : Int), h.shape = [64, 32] → 1 ≤ s → render h s lit dark =
        .ok ((Image.ofCells h.lit ⟨lit.bytes, dark.bytes⟩).upscale s.toNat) := by
      intro h s hh hs
      rw [render_eq hs hh, hnone]
    have hshows := Image.shows_upscale g ⟨lit.bytes, dark.bytes⟩ hpos
    refine ⟨_, ⟨lit.bytes, dark.bytes⟩, hrender g scale hg hs, hlit, hdark, hshows, ?_, ?_⟩
    · intro hne h hh hsame
      have hshows' := Image.shows_upscale h ⟨lit.bytes, dark.bytes⟩ hpos
      rw [hrender h scale hh hs] at hsame
      rw [Except.ok.inj hsame] at hshows'
      refine hshows'.display_eq hshows hpos fun heq => hne ?_
      rw [← hlit, ← hdark]
      exact congrArg Colour.spec heq
    · intro b hb
      have hmul : (scale * b).toNat = scale.toNat * b := by
        rw [Int.toNat_mul (by omega) (by omega), Int.toNat_natCast]
      have hscale : 1 ≤ scale * b := by
        have := Nat.mul_pos hpos hb
        omega
      refine ⟨_, hrender g _ hg hscale, ?_, fun x y => ?_⟩
      · rw [hmul, Image.upscale_upscale hpos hb]
      · rw [hmul, ← Image.upscale_upscale hpos hb, Image.pixel?_upscale hb]

/-- A single lit cell away from the diagonal, in amber on navy. -/
def speckled : Grid := ⟨[64, 32], fun x y => x == 5 && y == 2⟩

/-- Three refusals, the last for a colour that no cell has, and a picture that is scaled
once more. -/
theorem render_exact_speckled :
    let amber : ColourSpec := ⟨255, 176, 0⟩
    let navy : ColourSpec := ⟨0, 0, 64⟩
    let broken : ColourSpec := ⟨255, 256, -1⟩
    (render ⟨[64], speckled.lit⟩ 0 broken navy = .error (.scale 0) ∧
      render ⟨[64], speckled.lit⟩ 1 broken navy = .error (.shape [64]) ∧
      render ⟨[64, 32], fun _ _ => false⟩ 1 broken navy = .error (.colour 256)) ∧
    ∃ i, render speckled 2 amber navy = .ok i ∧
      i.pixel? 10 5 = some ⟨255, 176, 0⟩ ∧ i.pixel? 5 10 = some ⟨0, 0, 64⟩ ∧
      (∀ h : Grid, h.shape = [64, 32] → render h 2 amber navy = .ok i →
        h.display = speckled.display) ∧
      render speckled 6 amber navy = .ok (i.upscale 3) := by
  intro amber navy broken
  obtain ⟨hscale, -⟩ := render_exact ⟨[64], speckled.lit⟩ 0 broken navy
  obtain ⟨-, hshape, -⟩ := render_exact ⟨[64], speckled.lit⟩ 1 broken navy
  obtain ⟨-, -, hcolour, -⟩ := render_exact ⟨[64, 32], fun _ _ => false⟩ 1 broken navy
  obtain ⟨-, -, -, hpicture⟩ := render_exact speckled 2 amber navy
  refine ⟨⟨hscale (by decide), hshape (by decide) (by decide),
    hcolour (by decide) rfl 256 (by decide)⟩, ?_⟩
  obtain ⟨i, p, hi, hamber, hnavy, hshows, hunique, hagain⟩ :=
    hpicture (by decide) rfl (by decide)
  obtain ⟨j, hj, hscaled, -⟩ := hagain 3 (by decide)
  have hlit : p.lit = ⟨255, 176, 0⟩ := by rw [← bytes_spec p.lit, hamber]; rfl
  have hdark : p.dark = ⟨0, 0, 64⟩ := by rw [← bytes_spec p.dark, hnavy]; rfl
  refine ⟨i, hi, ?_, ?_, hunique (by decide), hscaled ▸ hj⟩
  · rw [hshows.pixel 10 5 (by decide) (by decide), Grid.display, Display.lit_ofFn, ← hlit]
    rfl
  · rw [hshows.pixel 5 10 (by decide) (by decide), Grid.display, Display.lit_ofFn, ← hdark]
    rfl

end Chip8
