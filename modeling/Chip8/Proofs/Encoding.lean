import Chip8.Image.Encode
import Chip8.Proofs.Photograph
import Chip8.Proofs.Rendering

/-!
# What the file of a picture tells

Each format but the photograph keeps every pixel: from the bytes of a picture of a known
size the picture can be told (`ImageFormat.delimits_encode`), for a format with a table of
colours if they fit in the table. The bytes of a photograph tell what its readers see.

* `ImageFormat.kept_of_encode`: pictures of one size whose files agree show the same.
* `ImageFormat.display_of_encode`: saved displays whose files agree show the same, and
  are the same display unless they are photographs.
-/
namespace Chip8

/-- Pictures with `h` rows of `w` pixels. -/
def Image.Sized (w h : Nat) (i : Image) : Prop := Each h (Each w fun _ => True) i.rows

variable {β : Type} {w h : Nat} {code : List Colour → List β}

theorem Image.Sized.height_eq {i : Image} (hi : i.Sized w h) : i.height = h := hi.length

theorem Image.Sized.width_eq {i : Image} (hi : i.Sized w h) (hh : 0 < h) : i.width = w := by
  obtain ⟨row, rows, hrows⟩ := List.exists_cons_of_length_pos (hi.length.symm ▸ hh)
  rw [Image.width, hrows]
  exact (hi.all row (hrows ▸ .head rows)).length

/-! ## Pixels and rows -/

theorem Colour.delimits_forward : Delimits (fun _ => True) Colour.forward := by
  intro c d _ _ r s heq
  cases c
  cases d
  simp only [Colour.forward, List.cons_append, List.nil_append, List.cons.injEq] at heq
  obtain ⟨rfl, rfl, rfl, hrest⟩ := heq
  exact ⟨rfl, hrest⟩

theorem Colour.delimits_backward : Delimits (fun _ => True) Colour.backward := by
  intro c d _ _ r s heq
  cases c
  cases d
  simp only [Colour.backward, List.cons_append, List.nil_append, List.cons.injEq] at heq
  obtain ⟨rfl, rfl, rfl, hrest⟩ := heq
  exact ⟨rfl, hrest⟩

theorem delimits_rows (hcode : Delimits (Each w fun _ => True) code) :
    Delimits (Image.Sized w h) fun i => i.rows.flatMap code :=
  (hcode.flatMap h).comp (fun _ hi => hi) fun _ _ _ _ heq => congrArg Image.mk heq

theorem delimits_rows_upward (hcode : Delimits (Each w fun _ => True) code) :
    Delimits (Image.Sized w h) fun i => i.rows.reverse.flatMap code :=
  (hcode.flatMap h).comp (fun _ hi => hi.reverse) fun _ _ _ _ heq =>
    congrArg Image.mk (List.reverse_inj.mp heq)

theorem delimits_pixels : Delimits (Image.Sized w h) fun i => i.rows.flatten :=
  (Delimits.flatten h w).comp (fun _ hi => hi) fun _ _ _ _ heq => congrArg Image.mk heq

theorem delimits_pixels_upward : Delimits (Image.Sized w h) fun i => i.rows.reverse.flatten :=
  (Delimits.flatten h w).comp (fun _ hi => hi.reverse) fun _ _ _ _ heq =>
    congrArg Image.mk (List.reverse_inj.mp heq)

/-! ## Rows as they are -/

theorem Bitmap.delimits_row : Delimits (Each w fun _ => True) Bitmap.row :=
  (Colour.delimits_backward.flatMap w).before _

theorem Bitmap.delimits_deviceIndependent :
    Delimits (Image.Sized w h) Bitmap.deviceIndependent :=
  (delimits_rows_upward Bitmap.delimits_row).behind fun _ _ _ _ => by simp

theorem Bitmap.delimits_encode : Delimits (Image.Sized w h) Bitmap.encode :=
  Bitmap.delimits_deviceIndependent.behind fun _ _ _ _ => by simp

theorem Pixmap.delimits_encode (hh : 0 < h) : Delimits (Image.Sized w h) Pixmap.encode :=
  (delimits_rows (Colour.delimits_forward.flatMap w)).behind fun _ _ hi hj => by
    rw [hi.width_eq hh, hj.width_eq hh, hi.height_eq, hj.height_eq]

theorem Tagged.delimits_encode : Delimits (Image.Sized w h) Tagged.encode :=
  (delimits_rows (Colour.delimits_forward.flatMap w)).behind fun _ _ _ _ => by
    simp [Tagged.short, Tagged.long]

theorem Targa.delimits_encode : Delimits (Image.Sized w h) Targa.encode :=
  ((((delimits_rows_upward (Colour.delimits_backward.flatMap w)).behind
    fun _ _ _ _ => by simp).before _).before _).before _

theorem Surface.delimits_encode : Delimits (Image.Sized w h) Surface.encode :=
  (delimits_rows (Colour.delimits_backward.flatMap w)).behind fun _ _ _ _ => by simp

/-! ## Colour parts apart -/

theorem eq_of_parts {k l : List Colour} (hred : k.map Colour.red = l.map Colour.red)
    (hgreen : k.map Colour.green = l.map Colour.green)
    (hblue : k.map Colour.blue = l.map Colour.blue) : k = l := by
  induction k generalizing l with
  | nil => exact (List.map_eq_nil_iff.mp hred.symm).symm
  | cons c k ih =>
    cases l with
    | nil => cases hred
    | cons d l =>
      obtain ⟨hr, hred⟩ := List.cons.inj hred
      obtain ⟨hg, hgreen⟩ := List.cons.inj hgreen
      obtain ⟨hb, hblue⟩ := List.cons.inj hblue
      have hhead : c = d := by
        cases c
        cases d
        exact Colour.mk.injEq .. ▸ ⟨hr, hg, hb⟩
      rw [hhead, ih hred hgreen hblue]

/-- The three parts of colours one behind another. -/
theorem delimits_parts {pack : List UInt8 → List UInt8} {n : Nat}
    (hpack : Delimits (fun bytes => bytes.length = n) pack) :
    Delimits (Each n fun _ => True) fun colours : List Colour => pack (colours.map Colour.red) ++
      (pack (colours.map Colour.green) ++ pack (colours.map Colour.blue)) := by
  intro k l hk hl r s heq
  have hlen : ∀ part : Colour → UInt8, (k.map part).length = n ∧ (l.map part).length = n :=
    fun part => ⟨(List.length_map part).trans hk.length, (List.length_map part).trans hl.length⟩
  simp only [List.append_assoc] at heq
  obtain ⟨hred, hbehind⟩ := hpack _ _ (hlen _).1 (hlen _).2 _ _ heq
  obtain ⟨hgreen, hbehind⟩ := hpack _ _ (hlen _).1 (hlen _).2 _ _ hbehind
  obtain ⟨hblue, hrest⟩ := hpack _ _ (hlen _).1 (hlen _).2 _ _ hbehind
  exact ⟨eq_of_parts hred hgreen hblue, hrest⟩

theorem Workstation.plane_eq (i : Image) (part : Colour → UInt8) :
    plane i part = i.rows.reverse.flatten.map part := by
  rw [plane, List.map_flatten, List.flatMap_def]

theorem Workstation.delimits_encode : Delimits (Image.Sized w h) Workstation.encode := by
  have hplanes : Delimits (Image.Sized w h) fun i =>
      plane i Colour.red ++ (plane i Colour.green ++ plane i Colour.blue) := by
    simp only [plane_eq]
    exact (delimits_parts (.self (h * w))).comp (fun _ hi => hi.reverse.flatten)
      fun _ _ => delimits_pixels_upward.inj
  exact ((hplanes.behind fun _ _ _ _ => by simp).assoc).assoc

theorem Labelled.delimits_encode (hh : 0 < h) : Delimits (Image.Sized w h) Labelled.encode := by
  have hrow : Delimits (Each w fun _ => True) Labelled.row := (delimits_parts (.self w)).assoc
  exact (delimits_rows_upward hrow).behind fun i j hi hj => by
    simp only [hi.width_eq hh, hj.width_eq hh, hi.height_eq, hj.height_eq]

namespace NetworkGraphic

theorem delimits_storedBlocks (n : Nat) :
    Delimits (fun bytes => bytes.length = n) storedBlocks := by
  have hblock : ∀ k ≤ 65535, Delimits (fun bytes => bytes.length = k) (storedBlock false) :=
    fun k _ => (Delimits.self k).behind fun _ _ _ _ => by simp
  exact (Delimits.pieces (by decide) hblock n).before _

theorem delimits_chunk {α : Type} {P : α → Prop} {content : α → List UInt8}
    (h : Delimits P content) (kind : String) : Delimits P fun a => chunk kind (content a) :=
  ((h.behind fun _ _ _ _ => rfl).behind fun _ _ _ _ => by simp).before _

/-- The pixels of a picture, each row behind a filter byte. -/
def body (i : Image) : List UInt8 := i.rows.flatMap fun r => 0 :: r.flatMap Colour.forward

theorem delimits_body : Delimits (Image.Sized w h) body := by
  have hrow : Delimits (Each w fun _ => True) fun r => [0] ++ r.flatMap Colour.forward :=
    (Colour.delimits_forward.flatMap w).behind fun _ _ _ _ => rfl
  exact delimits_rows hrow

theorem length_body {i : Image} (hi : i.Sized w h) : (body i).length = h * (w * 3 + 1) := by
  refine (hi.flatMap (R := fun _ => True) fun r hr => ?_).length
  exact .cons trivial (hr.flatMap fun _ _ => .of_length rfl)

theorem delimits_encode : Delimits (Image.Sized w h) encode := by
  have hblocks : Delimits (Image.Sized w h) fun i => storedBlocks (body i) :=
    (delimits_storedBlocks _).comp (fun _ => length_body) fun _ _ => delimits_body.inj
  have hstream : Delimits (Image.Sized w h) fun i => stream (body i) :=
    (hblocks.behind fun _ _ _ _ => rfl).before _
  exact ((delimits_chunk hstream "IDAT").behind fun _ _ _ _ => by simp [chunk]).before _

end NetworkGraphic

/-! ## Runs -/

section Runs

variable {α : Type} [DecidableEq α]

/-- The items of runs. -/
def expand (runs : List (Nat × α)) : List α := runs.flatMap fun r => List.replicate r.1 r.2

theorem expand_addRun (a : α) (runs : List (Nat × α)) :
    expand (addRun a runs) = a :: expand runs := by
  cases runs with
  | nil => rfl
  | cons r rest =>
    rw [addRun]
    split
    · next hjoin =>
      obtain ⟨rfl, -⟩ := hjoin
      rfl
    · rfl

theorem expand_equalRuns (items : List α) : expand (equalRuns items) = items := by
  induction items with
  | nil => rfl
  | cons a items ih => rw [equalRuns, List.foldr_cons, expand_addRun, ← equalRuns, ih]

/-- Runs whose length is a number from 1 to 63. -/
def Brief (r : Nat × α) : Prop := 1 ≤ r.1 ∧ r.1 ≤ 63

theorem brief_addRun (a : α) {runs : List (Nat × α)} (h : ∀ r ∈ runs, Brief r) :
    ∀ r ∈ addRun a runs, Brief r := by
  have hone : Brief (1, a) := ⟨Nat.le_refl 1, Nat.le_of_ble_eq_true rfl⟩
  cases runs with
  | nil => exact List.forall_mem_singleton.mpr hone
  | cons r rest =>
    obtain ⟨hr, hrest⟩ := List.forall_mem_cons.mp h
    rw [addRun]
    split
    · next hjoin => exact List.forall_mem_cons.mpr ⟨⟨Nat.le_add_left 1 r.1, hjoin.2⟩, hrest⟩
    · exact List.forall_mem_cons.mpr ⟨hone, h⟩

theorem brief_equalRuns (items : List α) : ∀ r ∈ equalRuns items, Brief r := by
  induction items with
  | nil => nofun
  | cons a items ih => exact brief_addRun a ih

theorem equalRuns_inj {k l : List α} (h : equalRuns k = equalRuns l) : k = l := by
  rw [← expand_equalRuns k, h, expand_equalRuns]

theorem sum_equalRuns (items : List α) : ((equalRuns items).map Prod.fst).sum = items.length := by
  have hlength := congrArg List.length (expand_equalRuns items)
  simpa only [expand, List.length_flatMap, List.length_replicate] using hlength

end Runs

theorem toNat_mark {n : Nat} (h : n < 64) : ((0xC0 : UInt8) ||| UInt8.ofNat n).toNat = 192 + n := by
  have hall : ∀ k : Fin 64, ((0xC0 : UInt8) ||| UInt8.ofNat k).toNat = 192 + k := by decide
  exact hall ⟨n, h⟩

theorem mark_inj {m n : Nat} (hm : m < 64) (hn : n < 64)
    (h : (0xC0 : UInt8) ||| UInt8.ofNat m = 0xC0 ||| UInt8.ofNat n) : m = n := by
  have hnat := congrArg UInt8.toNat h
  rw [toNat_mark hm, toNat_mark hn] at hnat
  omega

namespace Paintbrush

theorem delimits_run : Delimits Brief run := by
  intro p q hp hq r s heq
  obtain ⟨n, b⟩ := p
  obtain ⟨m, c⟩ := q
  have hmark : ∀ k : Nat, Brief (k, b) → 0xC0 ≤ (0xC0 : UInt8) ||| UInt8.ofNat k := by
    intro k hk
    rw [UInt8.le_iff_toNat_le, toNat_mark (Nat.lt_succ_of_le hk.2)]
    exact Nat.le_add_right 192 k
  simp only [run] at heq
  split at heq <;> split at heq
  · next hp' hq' =>
    obtain ⟨rfl, hrest⟩ := List.cons.inj heq
    exact ⟨Prod.ext (hp'.1.trans hq'.1.symm) rfl, hrest⟩
  · next hp' _ =>
    obtain ⟨rfl, -⟩ := List.cons.inj heq
    exact absurd hp'.2 (UInt8.not_lt.mpr (hmark m hq))
  · next _ hq' =>
    obtain ⟨rfl, -⟩ := List.cons.inj heq
    exact absurd hq'.2 (UInt8.not_lt.mpr (hmark n hp))
  · obtain ⟨hcount, heq⟩ := List.cons.inj heq
    obtain ⟨rfl, hrest⟩ := List.cons.inj heq
    have hn : n = m := mark_inj (Nat.lt_succ_of_le hp.2) (Nat.lt_succ_of_le hq.2) hcount
    exact ⟨Prod.ext hn rfl, hrest⟩

theorem delimits_pack (n : Nat) : Delimits (fun bytes => bytes.length = n) pack := by
  have hruns : Delimits (fun runs : List (Nat × UInt8) =>
      (runs.map Prod.fst).sum = n + n % 2 ∧ ∀ r ∈ runs, Brief r) (·.flatMap run) :=
    delimits_run.flatMap_weighed (fun _ hr => hr.1) _
  refine hruns.comp (f := fun bytes => equalRuns (bytes ++ zeroBytes (bytes.length % 2)))
    (fun bytes hbytes => ⟨?_, brief_equalRuns _⟩) fun k l hk hl heq => ?_
  · rw [sum_equalRuns, List.length_append, length_zeroBytes, hbytes]
  · exact (List.append_inj (equalRuns_inj heq) (hk.trans hl.symm)).1

theorem delimits_encode : Delimits (Image.Sized w h) encode :=
  (delimits_rows (delimits_parts (delimits_pack w)).assoc).behind fun _ _ _ _ => by simp

end Paintbrush

namespace QuiteOk

/-- What is behind a run begins with a byte that is no count. -/
theorem exists_head (runs : List (Nat × Colour)) (r : List UInt8) :
    ∃ b rest, runs.flatMap run ++ (zeroBytes 7 ++ r) = b :: rest ∧ (b = 0 ∨ b = 0xFE) := by
  cases runs with
  | nil => exact ⟨0, _, rfl, .inl rfl⟩
  | cons q runs => exact ⟨0xFE, _, rfl, .inr rfl⟩

theorem mark_ne {n : Nat} (h : n < 62) {b : UInt8} (hb : b = 0 ∨ b = 0xFE) :
    (0xC0 : UInt8) ||| UInt8.ofNat n ≠ b := by
  intro heq
  have hnat := congrArg UInt8.toNat heq
  rw [toNat_mark (by omega)] at hnat
  obtain rfl | rfl := hb
  · exact absurd hnat (by simp)
  · have : (0xFE : UInt8).toNat = 254 := rfl
    omega

/-- How often a colour is repeated, told from the bytes behind the colour. -/
def again (n : Nat) : List UInt8 := if n = 1 then [] else [0xC0 ||| UInt8.ofNat (n - 2)]

theorem again_behind {n m : Nat} {c d : Colour} (hn : Brief (n, c)) (hm : Brief (m, d))
    {runs others : List (Nat × Colour)} {r s : List UInt8}
    (h : again n ++ (runs.flatMap run ++ (zeroBytes 7 ++ r)) =
      again m ++ (others.flatMap run ++ (zeroBytes 7 ++ s))) :
    n = m ∧ runs.flatMap run ++ (zeroBytes 7 ++ r) =
      others.flatMap run ++ (zeroBytes 7 ++ s) := by
  obtain ⟨b, front, hfront, hb⟩ := exists_head runs r
  obtain ⟨b', front', hfront', hb'⟩ := exists_head others s
  simp only [Brief] at hn hm
  rw [again, again] at h
  split at h <;> split at h
  · next hone hone' => exact ⟨hone.trans hone'.symm, h⟩
  · rw [hfront] at h
    exact absurd (List.cons.inj h).1.symm (mark_ne (by omega) hb)
  · rw [hfront'] at h
    exact absurd (List.cons.inj h).1 (mark_ne (by omega) hb')
  · obtain ⟨hcount, hrest⟩ := List.cons.inj h
    have hless := mark_inj (by omega) (by omega) hcount
    exact ⟨by omega, hrest⟩

theorem delimits_runs : Delimits (fun runs : List (Nat × Colour) => ∀ r ∈ runs, Brief r)
    fun runs => runs.flatMap run ++ zeroBytes 7 := by
  intro runs
  induction runs with
  | nil =>
    intro others _ _ r s heq
    cases others with
    | nil => exact ⟨rfl, List.append_cancel_left heq⟩
    | cons q others => cases (List.cons.inj heq).1
  | cons p runs ih =>
    intro others hruns hothers r s heq
    cases others with
    | nil => cases (List.cons.inj heq).1
    | cons q others =>
      obtain ⟨hp, htail⟩ := List.forall_mem_cons.mp hruns
      obtain ⟨hq, htail'⟩ := List.forall_mem_cons.mp hothers
      obtain ⟨n, c⟩ := p
      obtain ⟨m, d⟩ := q
      simp only [List.flatMap_cons, run, List.cons_append, List.append_assoc] at heq
      obtain ⟨rfl, hbehind⟩ :=
        Colour.delimits_forward c d trivial trivial _ _ (List.cons.inj heq).2
      obtain ⟨rfl, hrest⟩ := again_behind hp hq hbehind
      obtain ⟨rfl, hrs⟩ :=
        ih others htail htail' r s (by simpa only [List.append_assoc] using hrest)
      exact ⟨rfl, hrs⟩

theorem delimits_encode : Delimits (Image.Sized w h) encode := by
  have hruns : Delimits (Image.Sized w h) fun i =>
      (equalRuns i.rows.flatten).flatMap run ++ zeroBytes 7 :=
    delimits_runs.comp (fun _ _ => brief_equalRuns _) fun i j hi hj heq =>
      delimits_pixels.inj hi hj (equalRuns_inj heq)
  exact ((hruns.behind fun _ _ _ _ => by simp).assoc).before _

end QuiteOk

/-! ## Tables of colours -/

namespace Interchange

theorem delimits_blocks (n : Nat) : Delimits (fun bytes => bytes.length = n) blocks := by
  have hblock : ∀ k ≤ 255, Delimits (fun block : List UInt8 => block.length = k)
      fun block => [UInt8.ofNat block.length] ++ block :=
    fun k _ => (Delimits.self k).behind fun _ _ _ _ => rfl
  exact (Delimits.pieces (by decide) hblock n).before _

theorem bytes_eq (bs : List Bool) : bytes bs =
    (pieces 8 bs).flatMap fun eight => [eight.foldr (fun x n => 2 * n + x.toUInt8) 0] :=
  List.map_eq_flatMap

theorem bytes_inj {k l : List Bool} (hlen : k.length = l.length) (h : bytes k = bytes l) :
    k = l := by
  have hbyte : ∀ c ≤ 8, Delimits (fun bs : List Bool => bs.length = c)
      fun bs => [bs.foldr (fun x n => 2 * n + x.toUInt8) (0 : UInt8)] := fun c hc =>
    .of_length (fun _ _ _ _ => rfl) fun p q hp hq heq =>
      foldr_bits_inj (hp ▸ hc) (hp.trans hq.symm) (List.cons.inj heq).1
  rw [bytes_eq, bytes_eq] at h
  exact (Delimits.pieces (by decide) hbyte l.length).inj hlen rfl h

/-- Codes of nine bits. -/
theorem delimits_bits (n : Nat) : Delimits (Each n (· < 512)) bits := by
  have hnine : Delimits (· < 512) fun c : Nat => (List.range 9).map c.testBit :=
    .of_length (fun _ _ _ _ => by simp) fun c d hc hd => testBits_inj hc hd
  exact hnine.flatMap n

theorem delimits_codes (n : Nat) : Delimits (fun places => places.length = n) codes := by
  have hpiece : ∀ k ≤ 128, Delimits (fun piece : List Nat => piece.length = k) ([256] ++ ·) :=
    fun k _ => (Delimits.self k).behind fun _ _ _ _ => rfl
  exact (Delimits.pieces (by decide) hpiece n).before _

theorem codes_lt {places : List Nat} (h : ∀ p ∈ places, p < 256) : ∀ c ∈ codes places, c < 512 := by
  intro c hc
  rcases List.mem_append.mp hc with hc | hc
  · obtain ⟨piece, hpiece, hc⟩ := List.mem_flatMap.mp hc
    rcases List.mem_cons.mp hc with rfl | hc
    · decide
    · have hplace := h c (flatten_pieces 128 places ▸ List.mem_flatten.mpr ⟨piece, hpiece, hc⟩)
      exact Nat.lt_trans hplace (by decide)
  · rw [List.mem_singleton.mp hc]
    decide

/-- The places of the pixels in the table, as they stand in the file. -/
theorem delimits_places (n : Nat) :
    Delimits (Each n (· < 256)) fun places => blocks (bytes (bits (codes places))) := by
  -- any list of places of this length is as long in every form
  let sample := List.replicate n 0
  have hcodes : ∀ places, Each n (· < 256) places →
      Each (codes sample).length (· < 512) (codes places) := by
    intro places hplaces
    refine ⟨?_, codes_lt hplaces.all⟩
    rw [codes, codes, List.length_append, List.length_append,
      length_pieces_congr 128 (fun p q hpq => by simp only [List.length_cons, hpq])
        (hplaces.length.trans List.length_replicate.symm)]
  have hbits : ∀ places, Each n (· < 256) places →
      (bits (codes places)).length = (codes sample).length * 9 := fun places hplaces =>
    ((hcodes places hplaces).flatMap fun _ _ => .of_length (by simp)).length
  have hbytes : ∀ places, Each n (· < 256) places →
      (bytes (bits (codes places))).length = (bytes (bits (codes sample))).length := by
    intro places hplaces
    have hsample : Each n (· < 256) sample := ⟨List.length_replicate, fun p hp => by
      rw [List.eq_of_mem_replicate hp]
      decide⟩
    rw [bytes_eq, bytes_eq]
    exact length_pieces_congr 8 (fun _ _ _ => rfl)
      ((hbits places hplaces).trans (hbits sample hsample).symm)
  refine (delimits_blocks _).comp hbytes fun k l hk hl heq => ?_
  have hsame := bytes_inj ((hbits k hk).trans (hbits l hl).symm) heq
  exact (delimits_codes n).inj hk.length hl.length
    ((delimits_bits _).inj (hcodes k hk) (hcodes l hl) hsame)

/-- The table filled up with black. -/
def filledTable (i : Image) : List Colour :=
  table i ++ List.replicate (256 - (table i).length) .black

theorem mem_table {i : Image} {row : List Colour} (hrow : row ∈ i.rows) {c : Colour}
    (hc : c ∈ row) : c ∈ table i :=
  List.mem_eraseDups.mpr (List.mem_flatMap.mpr ⟨row, hrow, List.mem_eraseDups.mpr hc⟩)

theorem forward_filledTable (i : Image) : (filledTable i).flatMap Colour.forward =
    (table i).flatMap Colour.forward ++ zeroBytes (768 - 3 * (table i).length) := by
  have hblack : ∀ k, (List.replicate k Colour.black).flatMap Colour.forward =
      zeroBytes (3 * k) := by
    intro k
    induction k with
    | zero => rfl
    | succ k ih => rw [List.replicate_succ, List.flatMap_cons, ih]; rfl
  rw [filledTable, List.flatMap_append, hblack, Nat.mul_sub]

/-- The places of the pixels of a picture in its table. -/
def places (i : Image) : List Nat := i.rows.flatMap (·.map fun c => (table i).idxOf c)

theorem places_eq (i : Image) : places i = i.rows.flatten.map fun c => (table i).idxOf c := by
  rw [places, List.map_flatten, List.flatMap_def]

theorem each_places {i : Image} (hi : i.Sized w h) (htable : (table i).length ≤ 256) :
    Each (h * w) (· < 256) (places i) := by
  have hlength := (hi.flatMap (R := fun _ => True) fun row hrow =>
    .of_length ((List.length_map fun c => (table i).idxOf c).trans hrow.length)).length
  refine ⟨hlength, fun p hp => ?_⟩
  obtain ⟨row, hrow, hp⟩ := List.mem_flatMap.mp hp
  obtain ⟨c, hc, rfl⟩ := List.mem_map.mp hp
  exact Nat.lt_of_lt_of_le (List.idxOf_lt_length_of_mem (mem_table hrow hc)) htable

/-- The table at the places gives the pixels. -/
theorem flatten_rows (i : Image) :
    i.rows.flatten = (places i).map fun p => (filledTable i).getD p .black := by
  rw [places_eq, List.map_map]
  have hpixel : ∀ c ∈ i.rows.flatten, (filledTable i).getD ((table i).idxOf c) .black = c := by
    intro c hc
    obtain ⟨row, hrow, hc⟩ := List.mem_flatten.mp hc
    have hlt := List.idxOf_lt_length_of_mem (mem_table hrow hc)
    rw [filledTable, List.getD_eq_getElem?_getD, List.getElem?_append_left hlt,
      List.getElem?_eq_getElem hlt, List.getElem_idxOf]
    rfl
  exact ((List.map_congr_left hpixel).trans (List.map_id _)).symm

theorem delimits_encode :
    Delimits (fun i : Image => i.Sized w h ∧ (table i).length ≤ 256) encode := by
  let front := fun i : Image =>
    asciiBytes "GIF87a" ++ littleEndian 2 i.width ++ littleEndian 2 i.height ++ [0xF7, 0, 0]
  let middle := fun i : Image =>
    [0x2C] ++ zeroBytes 4 ++ littleEndian 2 i.width ++ littleEndian 2 i.height ++ [0, 8]
  have hencode : ∀ (i : Image) (r : List UInt8), encode i ++ r =
      front i ++ ((filledTable i).flatMap Colour.forward ++
        (middle i ++ (blocks (bytes (bits (codes (places i)))) ++ ([0x3B] ++ r)))) := by
    intro i r
    simp only [encode, forward_filledTable, front, middle, places, List.append_assoc]
  intro i j hi hj r s heq
  rw [hencode, hencode] at heq
  have hfilled : ∀ i : Image, (table i).length ≤ 256 →
      Each 256 (fun _ => True) (filledTable i) := by
    intro i htable
    refine ⟨?_, fun _ _ => trivial⟩
    rw [filledTable, List.length_append, List.length_replicate]
    omega
  obtain ⟨-, hfromTable⟩ := List.append_inj heq (by simp [front])
  obtain ⟨htable, hfromMiddle⟩ :=
    Colour.delimits_forward.flatMap 256 _ _ (hfilled i hi.2) (hfilled j hj.2) _ _ hfromTable
  obtain ⟨-, hfromBlocks⟩ := List.append_inj hfromMiddle (by simp [middle])
  obtain ⟨hplaces, hend⟩ := delimits_places (h * w) _ _ (each_places hi.1 hi.2)
    (each_places hj.1 hj.2) _ _ hfromBlocks
  refine ⟨delimits_pixels.inj hi.1 hj.1 ?_, List.append_cancel_left hend⟩
  rw [flatten_rows, flatten_rows, htable, hplaces]

end Interchange

/-! ## All formats -/

/-- Every format but the photograph keeps a picture, if its colours fit in a table of 256. -/
theorem ImageFormat.delimits_encode {f : ImageFormat} (hf : f ≠ .jpeg) (hh : 0 < h) :
    Delimits (fun i : Image => i.Sized w h ∧ (Interchange.table i).length ≤ 256) f.encode := by
  have hsized : ∀ {encode : Image → List UInt8}, Delimits (Image.Sized w h) encode →
      Delimits (fun i : Image => i.Sized w h ∧ (Interchange.table i).length ≤ 256) encode :=
    fun hencode => hencode.comp (fun _ hi => hi.1) fun _ _ _ _ heq => heq
  cases f with
  | png => exact hsized NetworkGraphic.delimits_encode
  | bmp => exact hsized Bitmap.delimits_encode
  | dib => exact hsized Bitmap.delimits_deviceIndependent
  | tiff => exact hsized Tagged.delimits_encode
  | ppm => exact hsized (Pixmap.delimits_encode hh)
  | tga => exact hsized Targa.delimits_encode
  | pcx => exact hsized Paintbrush.delimits_encode
  | sgi => exact hsized Workstation.delimits_encode
  | dds => exact hsized Surface.delimits_encode
  | gif => exact Interchange.delimits_encode
  | im => exact hsized (Labelled.delimits_encode hh)
  | qoi => exact hsized QuiteOk.delimits_encode
  | jpeg => exact absurd rfl hf

/-- Pictures of one size whose files agree show the same to their readers. The sides are
those that a photograph needs. -/
theorem ImageFormat.kept_of_encode (f : ImageFormat) {a b : Nat} (ha : 0 < a) {i j : Image}
    (hi : i.Sized (b * 16) (a * 16)) (hj : j.Sized (b * 16) (a * 16))
    (hci : (Interchange.table i).length ≤ 256) (hcj : (Interchange.table j).length ≤ 256)
    (heq : f.encode i = f.encode j) : f.kept i = f.kept j := by
  by_cases hf : f = .jpeg
  · subst hf
    exact congrArg Photograph.Content.shown (Photograph.content_of_encode hi hj heq)
  · rw [(delimits_encode hf (Nat.mul_pos ha (by decide))).inj ⟨hi, hci⟩ ⟨hj, hcj⟩ heq]

/-! ## Displays -/

theorem nodup_eraseDups (colours : List Colour) : colours.eraseDups.Nodup := by
  induction hlength : colours.length using Nat.strongRecOn generalizing colours with
  | ind n ih =>
  cases colours with
  | nil => exact List.nodup_nil
  | cons c rest =>
    have hshort := List.length_filter_le (fun d => !d == c) rest
    rw [List.length_cons] at hlength
    rw [List.eraseDups_cons, List.nodup_cons]
    refine ⟨fun hc => ?_, ih _ (by omega) _ rfl⟩
    have hother := (List.mem_filter.mp (List.mem_eraseDups.mp hc)).2
    simp at hother

theorem Image.Shows.sized {i : Image} {d : Display} {p : Palette} {n : Nat}
    (hi : i.Shows d p n) : i.Sized (64 * n) (32 * n) :=
  ⟨hi.height, fun row hrow => .of_length (hi.width row hrow)⟩

/-- A picture of a display has two colours at most. -/
theorem Image.Shows.length_table_le {i : Image} {d : Display} {p : Palette} {n : Nat}
    (hi : i.Shows d p n) : (Interchange.table i).length ≤ 2 := by
  have hcolour : ∀ c ∈ Interchange.table i, c ∈ [p.lit, p.dark] := by
    intro c hc
    obtain ⟨row, hrow, hc⟩ := List.mem_flatMap.mp (List.mem_eraseDups.mp hc)
    obtain ⟨y, hy, rfl⟩ := List.getElem_of_mem hrow
    obtain ⟨x, hx, rfl⟩ := List.getElem_of_mem (List.mem_eraseDups.mp hc)
    have hxn : x / n < 64 := Nat.div_lt_of_lt_mul (by
      rw [Nat.mul_comm, ← hi.width _ hrow]
      exact hx)
    have hyn : y / n < 32 := Nat.div_lt_of_lt_mul (by
      rw [Nat.mul_comm, ← hi.height]
      exact hy)
    have hpixel := hi.pixel x y hxn hyn
    rw [Image.pixel?, List.getElem?_eq_getElem hy, Option.bind_some,
      List.getElem?_eq_getElem hx] at hpixel
    rw [Option.some.inj hpixel]
    split
    · exact .head _
    · exact .tail _ (.head _)
  exact (nodup_eraseDups _).length_le_of_subset hcolour

theorem Display.save_eq_ok {d : Display} {pictures : PictureLibrary} {path scheme : String}
    {scale : Int} {target : Except PathError Unit} {i : Image}
    (h : d.save pictures path scale scheme target = .ok i) :
    ∃ p, Palette.ofName scheme = .ok p ∧ 1 ≤ scale ∧ i.Shows d p scale.toNat := by
  rw [save] at h
  cases hp : Palette.ofName scheme with
  | error e =>
    rw [hp] at h
    cases h
  | ok p =>
    rw [hp] at h
    dsimp only at h
    by_cases hscale : scale < 1
    · rw [render, if_pos hscale] at h
      cases h
    · have hone : 1 ≤ scale := Int.not_lt.mp hscale
      obtain ⟨image, himage, hshows⟩ := render_grid d p hone
      rw [himage] at h
      dsimp only at h
      split at h
      · cases h
      · exact ⟨p, rfl, hone, Except.ok.inj h ▸ hshows⟩

/-- A scheme tells lit cells from dark ones. -/
theorem Palette.lit_ne_dark {scheme : String} {p : Palette} (h : Palette.ofName scheme = .ok p) :
    p.lit ≠ p.dark := by
  have hnamed : ∀ entry ∈ named, entry.2.lit ≠ entry.2.dark := by decide
  rw [ofName] at h
  split at h
  · next q hq =>
    obtain rfl := Except.ok.inj h
    obtain ⟨before, after, hsplit, -⟩ := List.lookup_eq_some_iff.mp hq
    exact hnamed (scheme, q) (hsplit ▸ List.mem_append_right before (.head after))
  · cases h

/-- **Saved displays.** Displays that are saved in one format, at one scale and in one
scheme, and whose files agree byte for byte, show the same to the readers of the files.
They are the same display unless the files are photographs. -/
theorem ImageFormat.display_of_encode (f : ImageFormat) {d e : Display} {pictures : PictureLibrary}
    {path path' scheme : String} {scale : Int} {target target' : Except PathError Unit}
    {i j : Image} (hi : d.save pictures path scale scheme target = .ok i)
    (hj : e.save pictures path' scale scheme target' = .ok j) (heq : f.encode i = f.encode j) :
    f.kept i = f.kept j ∧ (f ≠ .jpeg → d = e) := by
  obtain ⟨p, hp, hscale, hd⟩ := Display.save_eq_ok hi
  obtain ⟨q, hq, -, he⟩ := Display.save_eq_ok hj
  obtain rfl : p = q := Except.ok.inj (hp.symm.trans hq)
  have hn : 0 < scale.toNat := by omega
  have hwidth : 4 * scale.toNat * 16 = 64 * scale.toNat := by omega
  have hheight : 2 * scale.toNat * 16 = 32 * scale.toNat := by omega
  have hci := Nat.le_trans (hd.length_table_le) (by decide : 2 ≤ 256)
  have hcj := Nat.le_trans (he.length_table_le) (by decide : 2 ≤ 256)
  refine ⟨f.kept_of_encode (a := 2 * scale.toNat) (b := 4 * scale.toNat) (by omega) ?_ ?_ hci hcj
    heq, fun hf => ?_⟩
  · rw [hwidth, hheight]
    exact hd.sized
  · rw [hwidth, hheight]
    exact he.sized
  · have hsame := (delimits_encode hf (by omega : 0 < 32 * scale.toNat)).inj ⟨hd.sized, hci⟩
      ⟨he.sized, hcj⟩ heq
    exact hd.display_eq (hsame ▸ he) hn (Palette.lit_ne_dark hp)

end Chip8
