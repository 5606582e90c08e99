import Chip8.Proofs.Strengths

/-!
# What the file of a photograph tells

The strengths of waves are small (`Content.Sized`), so every one has a code of its own
(`delimits_block`), and from the bits of a photograph its content can be told
(`Content.delimits_bits`). The bytes of the file tell the bits but for ones at the end
(`pack_behind`).

* `content_of_encode`: photographs of one size whose files agree have the same content.
-/
namespace Chip8
namespace Photograph

/-! ## Codes -/

theorem length_bits (count n : Nat) : (bits count n).length = count := by
  rw [bits, List.length_map, List.length_reverse, List.length_range]

theorem bits_inj {count m n : Nat} (hm : m < 2 ^ count) (hn : n < 2 ^ count)
    (h : bits count m = bits count n) : m = n := by
  rw [bits, bits, List.map_reverse, List.map_reverse] at h
  exact testBits_inj hm hn (List.reverse_inj.mp h)

/-- The width of an amount is the number of its bits. -/
theorem width_spec {n : Int} (hn : n ≠ 0) :
    ∃ k, width n = k + 1 ∧ 2 ^ k ≤ n.natAbs ∧ n.natAbs < 2 ^ k * 2 := by
  have habs : n.natAbs ≠ 0 := Int.natAbs_ne_zero.mpr hn
  refine ⟨n.natAbs.log2, if_neg hn, Nat.log2_self_le habs, ?_⟩
  rw [← Nat.pow_succ]
  exact Nat.lt_log2_self

theorem width_le {n : Int} {k : Nat} (h : n.natAbs < 2 ^ k) : width n ≤ k := by
  rw [width]
  split
  · exact Nat.zero_le k
  · next hn => exact (Nat.log2_lt (Int.natAbs_ne_zero.mpr hn)).mpr h

theorem width_eq_zero_iff {n : Int} : width n = 0 ↔ n = 0 := by
  refine ⟨fun h => ?_, fun h => h ▸ rfl⟩
  by_cases hn : n = 0
  · exact hn
  · obtain ⟨k, hk, -⟩ := width_spec hn
    omega

/-- The number that stands for an amount. -/
def offset (n : Int) : Nat := (if n < 0 then n + (1 <<< width n : Nat) - 1 else n).toNat

theorem offset_eq {n : Int} {k : Nat} (hk : width n = k + 1) :
    offset n = (if n < 0 then n + (2 ^ k * 2 : Nat) - 1 else n).toNat := by
  rw [offset, hk, Nat.one_shiftLeft, Nat.pow_succ]

theorem amount_inj {m n : Int} (hwidth : width m = width n) (h : amount m = amount n) : m = n := by
  by_cases hm : m = 0
  · rw [hm, width_eq_zero_iff.mpr rfl] at hwidth
    exact hm.trans (width_eq_zero_iff.mp hwidth.symm).symm
  · have hn : n ≠ 0 := fun hn => hm (width_eq_zero_iff.mp (hwidth.trans (hn ▸ rfl)))
    obtain ⟨k, hk, hlow, hhigh⟩ := width_spec hm
    obtain ⟨l, hl, hlow', hhigh'⟩ := width_spec hn
    obtain rfl : k = l := by omega
    have hoffset : offset m = offset n := by
      rw [amount, amount, ← offset, ← offset, hk, hl] at h
      refine bits_inj ?_ ?_ h
      · rw [offset_eq hk, Nat.pow_succ]
        split <;> omega
      · rw [offset_eq hl, Nat.pow_succ]
        split <;> omega
    -- the negative amounts of a width are below the positive ones
    rw [offset_eq hk, offset_eq hl] at hoffset
    split at hoffset <;> split at hoffset <;> omega

theorem amount_behind {m n : Int} {r s : List Bool} (hwidth : width m = width n)
    (h : amount m ++ r = amount n ++ s) : m = n ∧ r = s := by
  obtain ⟨hamount, hrest⟩ := List.append_inj h (by
    rw [amount, amount, length_bits, length_bits, hwidth])
  exact ⟨amount_inj hwidth hamount, hrest⟩

theorem code_behind {zeros zeros' size size' : Nat} {r s : List Bool} (hz : zeros < 16)
    (hz' : zeros' < 16) (hs : size ≤ 10) (hs' : size' ≤ 10)
    (h : code zeros size ++ r = code zeros' size' ++ s) :
    zeros = zeros' ∧ size = size' ∧ r = s := by
  obtain ⟨hcode, hrest⟩ := List.append_inj h (by rw [code, code, length_bits, length_bits])
  have hnumber := bits_inj (by omega) (by omega) hcode
  exact ⟨by omega, by omega, hrest⟩

/-- The strengths that the codes take. -/
def Strength (n : Int) : Prop := n.natAbs < 2 ^ 10

/-- Sixteens of zeros, then a code for what is left of them and for a width. -/
theorem zeros_behind {q q' zeros zeros' size size' : Nat} {r s : List Bool} (hz : zeros < 16)
    (hz' : zeros' < 16) (hs : 0 < size ∧ size ≤ 10) (hs' : 0 < size' ∧ size' ≤ 10)
    (h : (List.replicate q (code 15 0)).flatten ++ (code zeros size ++ r) =
      (List.replicate q' (code 15 0)).flatten ++ (code zeros' size' ++ s)) :
    q = q' ∧ zeros = zeros' ∧ size = size' ∧ r = s := by
  induction q generalizing q' with
  | zero =>
    cases q' with
    | zero => exact ⟨rfl, code_behind hz hz' hs.2 hs'.2 h⟩
    | succ q' =>
      rw [List.replicate_succ, List.flatten_cons, List.append_assoc] at h
      have hsize := (code_behind hz (by decide) hs.2 (Nat.zero_le 10) h).2.1
      omega
  | succ q ih =>
    cases q' with
    | zero =>
      rw [List.replicate_succ, List.flatten_cons, List.append_assoc] at h
      have hsize := (code_behind (by decide) hz' (Nat.zero_le 10) hs'.2 h).2.1
      omega
    | succ q' =>
      simp only [List.replicate_succ, List.flatten_cons, List.append_assoc] at h
      obtain ⟨rfl, hrest⟩ := ih (List.append_cancel_left h)
      exact ⟨rfl, hrest⟩

theorem tail_of_ne {n : Int} (hn : n ≠ 0) (zeros : Nat) (rest : List Int) :
    tail zeros (n :: rest) = (List.replicate (zeros / 16) (code 15 0)).flatten ++
      (code (zeros % 16) (width n) ++ (amount n ++ tail 0 rest)) := by
  rw [tail, if_neg hn, List.append_assoc, List.append_assoc]

theorem size_of_strength {n : Int} (hn : n ≠ 0) (h : Strength n) : 0 < width n ∧ width n ≤ 10 :=
  ⟨Nat.pos_of_ne_zero (mt width_eq_zero_iff.mp hn), width_le h⟩

/-- The mark of the end of a block is no part of a strength. -/
theorem tail_ne_end {n : Int} (hn : n ≠ 0) (h : Strength n) (zeros : Nat) (rest : List Int)
    (r s : List Bool) : tail zeros (n :: rest) ++ r ≠ code 0 0 ++ s := by
  obtain ⟨hpos, hle⟩ := size_of_strength hn h
  intro heq
  rw [tail_of_ne hn] at heq
  cases hq : zeros / 16 with
  | zero =>
    rw [hq, List.replicate_zero, List.flatten_nil, List.nil_append, List.append_assoc] at heq
    have hsize := (code_behind (Nat.mod_lt _ (by decide)) (by decide) hle (Nat.zero_le 10) heq).2.1
    omega
  | succ q =>
    rw [hq, List.replicate_succ, List.flatten_cons, List.append_assoc, List.append_assoc] at heq
    have hzeros := (code_behind (by decide) (by decide) (by decide) (by decide) heq).1
    omega

/-- Two blocks from strengths on, with the zeros that are counted before them. -/
theorem tail_cons_behind {m n : Int} {zeros zeros' : Nat} {k l : List Int} {r s : List Bool}
    (hm : m ≠ 0) (hn : n ≠ 0) (hms : Strength m) (hns : Strength n)
    (h : tail zeros (m :: k) ++ r = tail zeros' (n :: l) ++ s) :
    zeros = zeros' ∧ m = n ∧ tail 0 k ++ r = tail 0 l ++ s := by
  rw [tail_of_ne hm, tail_of_ne hn] at h
  simp only [List.append_assoc] at h
  obtain ⟨hquotient, hremainder, hwidth, hbehind⟩ := zeros_behind (Nat.mod_lt _ (by decide))
    (Nat.mod_lt _ (by decide)) (size_of_strength hm hms) (size_of_strength hn hns) h
  obtain ⟨rfl, hrest⟩ := amount_behind hwidth hbehind
  exact ⟨by omega, rfl, hrest⟩

/-- Zeros at the front of a block are counted with those before it. -/
theorem exists_leading (zeros : Nat) (k : List Int) : ∃ count rest,
    List.replicate zeros 0 ++ k = List.replicate count 0 ++ rest ∧ rest <:+ k ∧
      tail zeros k = tail count rest ∧ rest.head? ≠ some 0 := by
  induction k generalizing zeros with
  | nil => exact ⟨zeros, [], rfl, List.suffix_refl [], rfl, nofun⟩
  | cons n k ih =>
    by_cases hn : n = 0
    · subst hn
      obtain ⟨count, rest, hlist, hsuffix, htail, hhead⟩ := ih (zeros + 1)
      refine ⟨count, rest, ?_, hsuffix.trans (List.suffix_cons 0 k), ?_, hhead⟩
      · rw [← hlist, List.replicate_succ', List.append_assoc, List.singleton_append]
      · rw [tail, if_pos rfl, htail]
    · exact ⟨zeros, n :: k, rfl, List.suffix_refl _, rfl, fun h => hn (Option.some.inj h)⟩

/-- Two blocks that end at the same place, from numbers of zeros on. -/
theorem tail_behind {k l : List Int} {zeros zeros' : Nat} {r s : List Bool}
    (hk : ∀ n ∈ k, Strength n) (hl : ∀ n ∈ l, Strength n)
    (hlength : zeros + k.length = zeros' + l.length)
    (h : tail zeros k ++ r = tail zeros' l ++ s) :
    List.replicate zeros 0 ++ k = List.replicate zeros' 0 ++ l ∧ r = s := by
  induction hsize : k.length using Nat.strongRecOn generalizing k l zeros zeros' with
  | ind size ih =>
  -- behind the zeros at its front, each block is at its end or goes on with a strength
  obtain ⟨count, rest, hlist, hsuffix, htail, hhead⟩ := exists_leading zeros k
  obtain ⟨count', rest', hlist', hsuffix', htail', hhead'⟩ := exists_leading zeros' l
  have hcount : count + rest.length = count' + rest'.length := by
    have hlen := congrArg List.length hlist
    have hlen' := congrArg List.length hlist'
    simp only [List.length_append, List.length_replicate] at hlen hlen'
    omega
  rw [htail, htail'] at h
  rw [hlist, hlist']
  have hend : ∀ c, 0 < c → tail c [] = code 0 0 := fun c hc => if_neg (Nat.ne_of_gt hc)
  cases rest with
  | nil =>
    cases rest' with
    | nil =>
      obtain rfl : count = count' := hcount
      exact ⟨rfl, List.append_cancel_left h⟩
    | cons n rest' =>
      have hn : n ≠ 0 := fun hn => hhead' (congrArg some hn)
      simp only [List.length_nil, List.length_cons] at hcount
      rw [hend count (by omega)] at h
      exact absurd h.symm (tail_ne_end hn (hl n (hsuffix'.mem (.head rest'))) _ _ _ _)
  | cons m rest =>
    have hm : m ≠ 0 := fun hm => hhead (congrArg some hm)
    have hmk := hk m (hsuffix.mem (.head rest))
    cases rest' with
    | nil =>
      simp only [List.length_nil, List.length_cons] at hcount
      rw [hend count' (by omega)] at h
      exact absurd h (tail_ne_end hm hmk _ _ _ _)
    | cons n rest' =>
      have hn : n ≠ 0 := fun hn => hhead' (congrArg some hn)
      obtain ⟨rfl, rfl, hrest⟩ :=
        tail_cons_behind hm hn hmk (hl n (hsuffix'.mem (.head rest'))) h
      have hshort := hsuffix.length_le
      rw [List.length_cons] at hshort
      obtain ⟨htails, hrs⟩ := ih rest.length (by omega)
        (fun a ha => hk a (hsuffix.mem (.tail m ha))) (fun a ha => hl a (hsuffix'.mem (.tail m ha)))
        (by simp only [List.length_cons] at hcount; omega) hrest rfl
      rw [List.replicate_zero, List.nil_append, List.nil_append] at htails
      exact ⟨by rw [htails], hrs⟩

/-- The codes of blocks. -/
theorem delimits_block : Delimits (Each 64 Strength) block := by
  intro k l hk hl r s heq
  obtain ⟨m, k, rfl⟩ := List.exists_cons_of_length_eq_add_one hk.length
  obtain ⟨n, l, rfl⟩ := List.exists_cons_of_length_eq_add_one hl.length
  obtain ⟨hm, hk'⟩ := List.forall_mem_cons.mp hk.all
  obtain ⟨hn, hl'⟩ := List.forall_mem_cons.mp hl.all
  simp only [block, List.append_assoc] at heq
  obtain ⟨hbits, hamounts⟩ := List.append_inj heq (by rw [length_bits, length_bits])
  have hwidth : width m = width n :=
    bits_inj (Nat.lt_of_le_of_lt (width_le hm) (by decide))
      (Nat.lt_of_le_of_lt (width_le hn) (by decide)) hbits
  obtain ⟨rfl, htails⟩ := amount_behind hwidth hamounts
  have hlength : 0 + k.length = 0 + l.length := by
    have := hk.length.trans hl.length.symm
    simpa using this
  obtain ⟨hrest, hrs⟩ := tail_behind hk' hl' hlength htails
  rw [List.replicate_zero, List.nil_append, List.nil_append] at hrest
  exact ⟨by rw [hrest], hrs⟩

/-! ## Order -/

theorem mem_path : ∀ y < 8, ∀ x < 8, (y, x) ∈ path := by decide

theorem lt_of_mem_path : ∀ p ∈ path, p.1 < 8 ∧ p.2 < 8 := by decide

theorem length_path : path.length = 64 := by decide

theorem getD_getD_of_lt {P : Int → Prop} {b : Block} (hb : Square P b) {y x : Nat} (hy : y < 8)
    (hx : x < 8) :
    ∃ (h : y < b.length) (h' : x < b[y].length), (b.getD y []).getD x 0 = b[y][x] := by
  have h : y < b.length := hb.length.symm ▸ hy
  have h' : x < b[y].length := (hb.all _ (List.getElem_mem h)).length.symm ▸ hx
  refine ⟨h, h', ?_⟩
  simp [h, h']

theorem along_inj {P : Int → Prop} {b c : Block} (hb : Square P b) (hc : Square P c)
    (h : along b = along c) : b = c := by
  refine List.ext_getElem (hb.length.trans hc.length.symm) fun y hy hy' => ?_
  refine List.ext_getElem ((hb.all _ (List.getElem_mem hy)).length.trans
    (hc.all _ (List.getElem_mem hy')).length.symm) fun x hx hx' => ?_
  have hy8 : y < 8 := hb.length ▸ hy
  have hx8 : x < 8 := (hb.all _ (List.getElem_mem hy)).length ▸ hx
  obtain ⟨_, _, hbyx⟩ := getD_getD_of_lt hb hy8 hx8
  obtain ⟨_, _, hcyx⟩ := getD_getD_of_lt hc hy8 hx8
  rw [← hbyx, ← hcyx]
  exact List.map_inj_left.mp h (y, x) (mem_path y hy8 x hx8)

theorem each_along {P : Int → Prop} {b : Block} (hb : Square P b) : Each 64 P (along b) := by
  refine Each.map (P := fun p : Nat × Nat => p.1 < 8 ∧ p.2 < 8) ⟨length_path, lt_of_mem_path⟩ ?_
  intro p hp
  obtain ⟨hy, hx, heq⟩ := getD_getD_of_lt hb hp.1 hp.2
  rw [heq]
  exact (hb.all _ (List.getElem_mem hy)).all _ (List.getElem_mem hx)

/-- The distances of the first numbers of blocks, from a number on. -/
def distancesFrom (start : Int) : List (List Int) → List (List Int)
  | [] => []
  | b :: bs => ((b.headD 0 - start) :: b.tail) :: distancesFrom (b.headD 0) bs

theorem distances_eq (bs : List (List Int)) : distances bs = distancesFrom 0 bs := by
  have hfrom : ∀ start : Int, List.zipWith (fun before b => (b.headD 0 - before) :: b.tail)
      (start :: bs.map (·.headD 0)) bs = distancesFrom start bs := by
    induction bs with
    | nil => exact fun _ => rfl
    | cons b bs ih => exact fun start => congrArg _ (ih (b.headD 0))
  exact hfrom 0

theorem distancesFrom_inj {start : Int} {n k : Nat} {P : Int → Prop} {bs cs : List (List Int)}
    (hb : Each n (Each (k + 1) P) bs) (hc : Each n (Each (k + 1) P) cs)
    (h : distancesFrom start bs = distancesFrom start cs) : bs = cs := by
  induction n generalizing start bs cs with
  | zero => rw [hb.eq_nil, hc.eq_nil]
  | succ n ih =>
    obtain ⟨b, bs, rfl, hbhead, hbs⟩ := hb.exists_cons
    obtain ⟨c, cs, rfl, hchead, hcs⟩ := hc.exists_cons
    obtain ⟨first, b, rfl, -, -⟩ := hbhead.exists_cons
    obtain ⟨first', c, rfl, -, -⟩ := hchead.exists_cons
    obtain ⟨hhead, hrest⟩ := List.cons.inj h
    obtain ⟨hfirst, htail⟩ := List.cons.inj hhead
    simp only [List.headD_cons, List.tail_cons] at hfirst htail hrest
    obtain rfl : first = first' := by omega
    rw [htail, ih hbs hcs hrest]

theorem each_distancesFrom {start : Int} (hstart : start.natAbs ≤ 205) {n k : Nat}
    {bs : List (List Int)} (h : Each n (Each (k + 1) (·.natAbs ≤ 205)) bs) :
    Each n (Each (k + 1) Strength) (distancesFrom start bs) := by
  induction n generalizing start bs with
  | zero =>
    rw [h.eq_nil]
    exact .nil
  | succ n ih =>
    obtain ⟨b, bs, rfl, hb, hbs⟩ := h.exists_cons
    obtain ⟨first, b, rfl, hfirst, hb⟩ := hb.exists_cons
    have hstrength : ∀ m : Int, m.natAbs ≤ 410 → Strength m := fun m hm =>
      Nat.lt_of_le_of_lt hm (by decide)
    refine .cons (.cons (hstrength _ ?_) ⟨hb.length, fun m hm => hstrength m ?_⟩) (ih hfirst hbs)
    · simp only [List.headD_cons]
      omega
    · exact Nat.le_trans (hb.all m hm) (by decide)

/-- A square of two rows of blocks, as it stands in the file. -/
theorem delimits_pair {P : Block → Prop} (b : Nat) : Delimits (Each 2 (Each (b * 2) P))
    fun pair : List (List Block) => (columns (pair.map (pieces 2))).flatMap List.flatten := by
  have hsquares : ∀ pair : List (List Block), Each 2 (Each (b * 2) P) pair →
      Each 2 (Each b (Each 2 P)) (pair.map (pieces 2)) :=
    fun pair hpair => hpair.map fun row hrow => hrow.pieces (by decide)
  refine ((Delimits.flatten 2 2).flatMap b).comp
    (fun pair hpair => (hsquares pair hpair).columns (by decide)) fun k l hk hl heq => ?_
  have hpieces := columns_inj (by decide) (hsquares k hk) (hsquares l hl) heq
  exact (List.map_inj_right fun _ _ => pieces_inj).mp hpieces

theorem each_squares {a b : Nat} {P : Block → Prop} {rows : List (List Block)}
    (h : Each (a * 2) (Each (b * 2) P) rows) : Each (a * (b * (2 * 2))) P (squares rows) :=
  (h.pieces (by decide)).flatMap fun pair hpair =>
    ((hpair.map fun row hrow => hrow.pieces (by decide)).columns (by decide)).flatMap
      fun _ hsquare => hsquare.flatten

theorem squares_inj {a b : Nat} {P : Block → Prop} {rows others : List (List Block)}
    (h : Each (a * 2) (Each (b * 2) P) rows) (h' : Each (a * 2) (Each (b * 2) P) others)
    (heq : squares rows = squares others) : rows = others :=
  pieces_inj (((delimits_pair b).flatMap a).inj (h.pieces (by decide)) (h'.pieces (by decide)) heq)

/-- Blocks along the path, their first numbers by distances. -/
def measured (bs : List Block) : List (List Int) := distances (bs.map along)

theorem each_measured {n : Nat} {bs : List Block} (h : Each n (Square (·.natAbs ≤ 205)) bs) :
    Each n (Each 64 Strength) (measured bs) := by
  rw [measured, distances_eq]
  exact each_distancesFrom (by decide) (h.map fun _ => each_along)

theorem measured_inj {n : Nat} {bs cs : List Block} (hb : Each n (Square (·.natAbs ≤ 205)) bs)
    (hc : Each n (Square (·.natAbs ≤ 205)) cs) (h : measured bs = measured cs) : bs = cs := by
  rw [measured, measured, distances_eq, distances_eq] at h
  have hpaths := distancesFrom_inj (hb.map fun _ => each_along) (hc.map fun _ => each_along) h
  exact hb.map_inj hc (fun _ _ => along_inj) hpaths

/-- What stands in the file for a square: four blocks of brightness, and two of tints. -/
def squareBits (square : List (List Int) × List Int × List Int) : List Bool :=
  square.1.flatMap block ++ (block square.2.1 ++ block square.2.2)

theorem Content.bits_eq (c : Content) : c.bits =
    ((pieces 4 (measured (squares c.brightness))).zip
      ((measured c.blue.flatten).zip (measured c.red.flatten))).flatMap squareBits := by
  have htints : ∀ blue red : List (List Int),
      List.zipWith (· ++ ·) (blue.map block) (red.map block) =
        (blue.zip red).map fun p => block p.1 ++ block p.2 := by
    intro blue red
    rw [List.zipWith_map, List.map_zip_eq_zipWith]
    rfl
  rw [List.flatMap_def, List.map_zip_eq_zipWith]
  show (List.zipWith (· ++ ·) ((pieces 4 ((measured (squares c.brightness)).map block)).map
    List.flatten) (List.zipWith (· ++ ·) ((measured c.blue.flatten).map block)
      ((measured c.red.flatten).map block))).flatten = _
  rw [htints, pieces_map, List.map_map, List.zipWith_map]
  rfl

/-- The bits of a photograph tell its content. -/
theorem Content.delimits_bits (a b : Nat) : Delimits (Content.Sized a b) Content.bits := by
  have hcode : Delimits (Each (a * b) fun square : List (List Int) × List Int × List Int =>
      Each 4 (Each 64 Strength) square.1 ∧ Each 64 Strength square.2.1 ∧
        Each 64 Strength square.2.2) (·.flatMap squareBits) :=
    ((delimits_block.flatMap 4).pair (delimits_block.pair delimits_block)).flatMap (a * b)
  have hbrightness : ∀ c : Content, c.Sized a b →
      Each (a * (b * (2 * 2))) (Square (·.natAbs ≤ 205)) (squares c.brightness) :=
    fun c hc => each_squares hc.brightness
  have hsquares : ∀ c : Content, c.Sized a b →
      Each (a * b) (Each 4 (Each 64 Strength)) (pieces 4 (measured (squares c.brightness))) := by
    intro c hc
    have h := each_measured (hbrightness c hc)
    rw [← Nat.mul_assoc] at h
    exact h.pieces (by decide)
  have htints : ∀ c : Content, c.Sized a b →
      Each (a * b) (Each 64 Strength) (measured c.blue.flatten) ∧
        Each (a * b) (Each 64 Strength) (measured c.red.flatten) :=
    fun c hc => ⟨each_measured hc.blue.flatten, each_measured hc.red.flatten⟩
  rw [funext Content.bits_eq]
  refine hcode.comp (fun c hc => (hsquares c hc).zip ((htints c hc).1.zip (htints c hc).2))
    fun c d hc hd heq => ?_
  have hlength : ∀ c : Content, c.Sized a b → (measured c.blue.flatten).length =
      (measured c.red.flatten).length := fun c hc =>
    (htints c hc).1.length.trans (htints c hc).2.length.symm
  have hlength' : ∀ c : Content, c.Sized a b →
      (pieces 4 (measured (squares c.brightness))).length =
        ((measured c.blue.flatten).zip (measured c.red.flatten)).length := fun c hc =>
    (hsquares c hc).length.trans ((htints c hc).1.zip (htints c hc).2).length.symm
  obtain ⟨hpieces, hpairs⟩ := zip_inj (hlength' c hc) (hlength' d hd) heq
  obtain ⟨hblue, hred⟩ := zip_inj (hlength c hc) (hlength d hd) hpairs
  have hrows := measured_inj (hbrightness c hc) (hbrightness d hd) (pieces_inj hpieces)
  cases c
  cases d
  rw [Content.mk.injEq]
  exact ⟨squares_inj hc.brightness hd.brightness hrows,
    (Delimits.flatten a b).inj hc.blue hd.blue
      (measured_inj hc.blue.flatten hd.blue.flatten hblue),
    (Delimits.flatten a b).inj hc.red hd.red
      (measured_inj hc.red.flatten hd.red.flatten hred)⟩

/-! ## The file -/

/-- A piece of bits, filled up with ones. -/
def filled (piece : List Bool) : List Bool := piece ++ List.replicate (8 - piece.length) true

/-- A byte in the file. A zero follows a byte of ones. -/
def stuffed (b : UInt8) : List UInt8 := if b = 0xFF then [0xFF, 0] else [b]

theorem exists_filled (bs : List Bool) : ∃ ones, (pieces 8 bs).flatMap filled = bs ++ ones := by
  fun_induction pieces 8 bs with
  | case1 => exact ⟨[], rfl⟩
  | case2 a rest ih =>
    obtain ⟨ones, hones⟩ := ih
    by_cases hshort : rest.length ≤ 7
    · refine ⟨List.replicate (8 - (a :: rest).length) true, ?_⟩
      rw [List.drop_eq_nil_of_le hshort, pieces, List.flatMap_cons, List.flatMap_nil,
        List.append_nil, List.take_of_length_le hshort, filled]
    · refine ⟨ones, ?_⟩
      have hfull : filled (a :: rest.take 7) = a :: rest.take 7 := by
        have hlength : (a :: rest.take 7).length = 8 := by
          rw [List.length_cons, List.length_take]
          omega
        rw [filled, hlength]
        exact List.append_nil _
      rw [List.flatMap_cons, hfull, hones, List.cons_append, ← List.append_assoc,
        List.take_append_drop, List.cons_append]

theorem each_filled (bs : List Bool) : ∀ piece ∈ (pieces 8 bs).map filled, piece.length = 8 := by
  intro piece hpiece
  obtain ⟨p, hp, rfl⟩ := List.mem_map.mp hpiece
  have hle := length_le_of_mem_pieces (by decide) hp
  rw [filled, List.length_append, List.length_replicate]
  omega

/-- The byte that eight bits make, the highest first. -/
def byte (eight : List Bool) : UInt8 := eight.foldl (fun n x => 2 * n + x.toUInt8) 0

theorem byte_inj {k l : List Bool} (hk : k.length = 8) (hl : l.length = 8) (h : byte k = byte l) :
    k = l := by
  have hreverse : ∀ bs : List Bool, byte bs = bs.reverse.foldr (fun x n => 2 * n + x.toUInt8) 0 :=
    fun _ => List.foldr_reverse.symm
  rw [hreverse, hreverse] at h
  refine List.reverse_inj.mp (foldr_bits_inj ?_ ?_ h)
  · exact Nat.le_of_eq (k.length_reverse.trans hk)
  · rw [List.length_reverse, List.length_reverse, hk, hl]

theorem pack_eq (bs : List Bool) :
    pack bs = (((pieces 8 bs).map filled).map byte).flatMap stuffed := by
  rw [pack, List.map_map, List.flatMap_map]
  rfl

theorem delimits_stuffed : Delimits (fun _ => True) stuffed := by
  intro b c _ _ r s heq
  simp only [stuffed] at heq
  split at heq <;> split at heq
  · next hb hc => exact ⟨hb.trans hc.symm, List.append_cancel_left heq⟩
  · next hc => exact absurd (List.cons.inj heq).1.symm hc
  · next hb _ => exact absurd (List.cons.inj heq).1 hb
  · exact List.cons.inj heq

/-- No byte looks like the mark of the end, which is ones and no zero behind them. -/
theorem stuffed_ne_end (b : UInt8) (r s : List UInt8) :
    stuffed b ++ r ≠ [0xFF, 0xD9] ++ s := by
  intro heq
  rw [stuffed] at heq
  split at heq
  · cases (List.cons.inj (List.cons.inj heq).2).1
  · next hb => exact hb (List.cons.inj heq).1

theorem delimits_stream : Delimits (fun _ => True) fun bytes : List UInt8 =>
    bytes.flatMap stuffed ++ [0xFF, 0xD9] := by
  intro bytes
  induction bytes with
  | nil =>
    rintro (_ | ⟨c, others⟩) _ _ r s heq
    · exact ⟨rfl, List.append_cancel_left heq⟩
    · simp only [List.flatMap_cons, List.append_assoc] at heq
      exact absurd heq.symm (stuffed_ne_end c _ r)
  | cons b bytes ih =>
    rintro (_ | ⟨c, others⟩) _ _ r s heq
    · simp only [List.flatMap_cons, List.append_assoc] at heq
      exact absurd heq (stuffed_ne_end b _ s)
    · simp only [List.flatMap_cons, List.append_assoc] at heq
      obtain ⟨rfl, hbehind⟩ := delimits_stuffed b c trivial trivial _ _ heq
      simp only [← List.append_assoc] at hbehind
      obtain ⟨rfl, hrs⟩ := ih others trivial trivial r s hbehind
      exact ⟨rfl, hrs⟩

/-- The bits that are packed, and the ones behind them, are told by the bytes. -/
theorem pack_behind {k l : List Bool} {r s : List UInt8}
    (h : pack k ++ [0xFF, 0xD9] ++ r = pack l ++ [0xFF, 0xD9] ++ s) :
    (∃ t u, k ++ t = l ++ u) ∧ r = s := by
  rw [pack_eq, pack_eq] at h
  obtain ⟨hbytes, hrs⟩ := delimits_stream _ _ trivial trivial r s h
  have hlength : (pieces 8 k).length = (pieces 8 l).length := by
    simpa only [List.length_map] using congrArg List.length hbytes
  have heach : ∀ bs, Each (pieces 8 bs).length (fun piece => piece.length = 8)
      ((pieces 8 bs).map filled) := fun bs => ⟨List.length_map _, each_filled bs⟩
  have hfilled := (heach k).map_inj (hlength ▸ heach l) (fun _ _ => byte_inj) hbytes
  obtain ⟨t, ht⟩ := exists_filled k
  obtain ⟨u, hu⟩ := exists_filled l
  refine ⟨⟨t, u, ?_⟩, hrs⟩
  rw [← ht, ← hu, List.flatMap_def, List.flatMap_def, hfilled]

/-- Pictures of one size whose files agree have the same content. -/
theorem content_of_encode {a b : Nat} {i j : Image}
    (hi : Each (a * 16) (Each (b * 16) fun _ => True) i.rows)
    (hj : Each (a * 16) (Each (b * 16) fun _ => True) j.rows) (h : encode i = encode j) :
    content i = content j := by
  change _ ++ pack (content i).bits ++ [0xFF, 0xD9] =
    _ ++ pack (content j).bits ++ [0xFF, 0xD9] at h
  rw [List.append_assoc _ (pack (content i).bits), List.append_assoc _ (pack (content j).bits)] at h
  obtain ⟨-, hpack⟩ := List.append_inj h (by
    simp only [segment, List.length_append, List.length_cons, length_networkOrder])
  have hstream : pack (content i).bits ++ [0xFF, 0xD9] ++ [] =
      pack (content j).bits ++ [0xFF, 0xD9] ++ [] := by rw [hpack]
  obtain ⟨⟨t, u, hbits⟩, -⟩ := pack_behind hstream
  exact (Content.delimits_bits a b _ _ (content_sized hi) (content_sized hj) t u hbits).1

end Photograph
end Chip8
