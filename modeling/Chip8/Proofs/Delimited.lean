import Mathlib.Algebra.GroupWithZero.Nat
import Chip8.Image.Bytes
import Chip8.Image.Pieces

/-!
# Codes that show where they end

A code gives a list for a value. It `Delimits` the values of a kind if from the list, with
anything behind it, both the value and what is behind it can be told. Such codes can be
put one behind another: a value of which only the length of the code is known may come
before (`Delimits.behind`), anything may come after (`Delimits.before`), and a list of
values may be given one by one (`Delimits.flatMap`) or in pieces (`Delimits.pieces`).

`Each n P` says that a list has `n` items of a kind. It nests, so that it gives the shape
of tables, which can be taken to pieces (`Each.pieces`) and turned (`columns_inj`).
-/
namespace Chip8

variable {α β γ : Type} {P : α → Prop} {Q : γ → Prop} {R : β → Prop} {code : α → List β} {m n : Nat}

/-- Two lists that begin with codes of such values agree only if the values do, and what
is behind the codes. -/
def Delimits (P : α → Prop) (code : α → List β) : Prop :=
  ∀ a b, P a → P b → ∀ r s, code a ++ r = code b ++ s → a = b ∧ r = s

/-- Lists of `n` values of a kind. -/
structure Each (n : Nat) (P : α → Prop) (items : List α) : Prop where
  length : items.length = n
  all : ∀ a ∈ items, P a

namespace Each

theorem nil : Each 0 P [] := ⟨rfl, nofun⟩

theorem of_length {items : List α} (h : items.length = n) : Each n (fun _ => True) items :=
  ⟨h, fun _ _ => trivial⟩

theorem cons {a : α} {items : List α} (ha : P a) (h : Each n P items) :
    Each (n + 1) P (a :: items) :=
  ⟨congrArg Nat.succ h.length, List.forall_mem_cons.mpr ⟨ha, h.all⟩⟩

theorem eq_nil {items : List α} (h : Each 0 P items) : items = [] :=
  List.eq_nil_of_length_eq_zero h.length

theorem exists_cons {items : List α} (h : Each (n + 1) P items) :
    ∃ a rest, items = a :: rest ∧ P a ∧ Each n P rest := by
  obtain ⟨hlength, hall⟩ := h
  obtain ⟨a, rest, rfl⟩ := List.exists_cons_of_length_eq_add_one hlength
  obtain ⟨ha, hrest⟩ := List.forall_mem_cons.mp hall
  exact ⟨a, rest, rfl, ha, Nat.succ.inj hlength, hrest⟩

theorem reverse {items : List α} (h : Each n P items) : Each n P items.reverse :=
  ⟨items.length_reverse.trans h.length, fun a ha => h.all a (List.mem_reverse.mp ha)⟩

theorem map {f : α → γ} {items : List α} (h : Each n P items) (hf : ∀ a, P a → Q (f a)) :
    Each n Q (items.map f) := by
  refine ⟨(List.length_map f).trans h.length, fun c hc => ?_⟩
  obtain ⟨a, ha, rfl⟩ := List.mem_map.mp hc
  exact hf a (h.all a ha)

theorem flatMap {f : α → List β} {items : List α} (h : Each m P items)
    (hf : ∀ a, P a → Each n R (f a)) : Each (m * n) R (items.flatMap f) := by
  refine ⟨?_, fun b hb => ?_⟩
  · have hlengths : items.map (fun a => (f a).length) = List.replicate m n := by
      rw [← h.length]
      exact List.map_eq_replicate_iff.mpr fun a ha => (hf a (h.all a ha)).length
    rw [List.length_flatMap, hlengths, List.sum_replicate_nat]
  · obtain ⟨a, ha, hb⟩ := List.mem_flatMap.mp hb
    exact (hf a (h.all a ha)).all b hb

theorem map_inj {f : α → γ} {items others : List α} (h : Each n P items) (h' : Each n P others)
    (hf : ∀ a b, P a → P b → f a = f b → a = b) (heq : items.map f = others.map f) :
    items = others := by
  induction n generalizing items others with
  | zero => rw [h.eq_nil, h'.eq_nil]
  | succ n ih =>
    obtain ⟨a, items, rfl, ha, hitems⟩ := h.exists_cons
    obtain ⟨b, others, rfl, hb, hothers⟩ := h'.exists_cons
    obtain ⟨hhead, hrest⟩ := List.cons.inj heq
    rw [hf a b ha hb hhead, ih hitems hothers hrest]

theorem flatten {items : List (List α)} (h : Each m (Each n P) items) :
    Each (m * n) P items.flatten := by
  rw [← List.flatMap_id]
  exact h.flatMap fun _ hpart => hpart

theorem zipWith {f : α → γ → β} {items : List α} {others : List γ} (h : Each n P items)
    (h' : Each n Q others) (hf : ∀ a c, P a → Q c → R (f a c)) :
    Each n R (items.zipWith f others) := by
  refine ⟨by rw [List.length_zipWith, h.length, h'.length, Nat.min_self], fun b hb => ?_⟩
  obtain ⟨i, hi, rfl⟩ := List.getElem_of_mem hb
  rw [List.getElem_zipWith]
  exact hf _ _ (h.all _ (List.getElem_mem _)) (h'.all _ (List.getElem_mem _))

theorem zip {items : List α} {others : List γ} (h : Each n P items) (h' : Each n Q others) :
    Each n (fun p : α × γ => P p.1 ∧ Q p.2) (items.zip others) :=
  h.zipWith h' fun _ _ => And.intro

end Each

theorem zip_inj {k k' : List α} {l l' : List γ} (hl : k.length = l.length)
    (hl' : k'.length = l'.length) (h : k.zip l = k'.zip l') : k = k' ∧ l = l' := by
  have hfst := congrArg (List.map Prod.fst) h
  have hsnd := congrArg (List.map Prod.snd) h
  rw [List.map_fst_zip (Nat.le_of_eq hl), List.map_fst_zip (Nat.le_of_eq hl')] at hfst
  rw [List.map_snd_zip (Nat.le_of_eq hl.symm), List.map_snd_zip (Nat.le_of_eq hl'.symm)] at hsnd
  exact ⟨hfst, hsnd⟩

namespace Delimits

theorem inj (h : Delimits P code) {a b : α} (ha : P a) (hb : P b) (heq : code a = code b) :
    a = b :=
  (h a b ha hb [] [] (by rw [heq])).1

/-- Lists of one length show where they end. -/
theorem of_length (hlen : ∀ a b, P a → P b → (code a).length = (code b).length)
    (hinj : ∀ a b, P a → P b → code a = code b → a = b) : Delimits P code := by
  intro a b ha hb r s heq
  obtain ⟨hcode, hrest⟩ := List.append_inj heq (hlen a b ha hb)
  exact ⟨hinj a b ha hb hcode, hrest⟩

/-- Lists of a known length are codes of themselves. -/
theorem self (n : Nat) : Delimits (fun items : List β => items.length = n) fun items => items :=
  .of_length (fun _ _ hk hl => hk.trans hl.symm) fun _ _ _ _ heq => heq

theorem comp (h : Delimits P code) {f : γ → α} (hf : ∀ c, Q c → P (f c))
    (hinj : ∀ c d, Q c → Q d → f c = f d → c = d) : Delimits Q fun c => code (f c) := by
  intro c d hc hd r s heq
  obtain ⟨hfeq, hrest⟩ := h (f c) (f d) (hf c hc) (hf d hd) r s heq
  exact ⟨hinj c d hc hd hfeq, hrest⟩

/-- The code behind a part of a known length. -/
theorem behind (h : Delimits P code) {front : α → List β}
    (hlen : ∀ a b, P a → P b → (front a).length = (front b).length) :
    Delimits P fun a => front a ++ code a := by
  intro a b ha hb r s heq
  rw [List.append_assoc, List.append_assoc] at heq
  exact h a b ha hb r s (List.append_inj heq (hlen a b ha hb)).2

/-- The code before any part that the value gives. -/
theorem before (h : Delimits P code) (back : α → List β) :
    Delimits P fun a => code a ++ back a := by
  intro a b ha hb r s heq
  rw [List.append_assoc, List.append_assoc] at heq
  obtain ⟨rfl, hback⟩ := h a b ha hb _ _ heq
  exact ⟨rfl, List.append_cancel_left hback⟩

theorem assoc {front middle back : α → List β}
    (h : Delimits P fun a => front a ++ (middle a ++ back a)) :
    Delimits P fun a => front a ++ middle a ++ back a := by
  simpa only [List.append_assoc] using h

/-- The codes of a known number of values. -/
theorem flatMap (h : Delimits P code) (n : Nat) : Delimits (Each n P) (·.flatMap code) := by
  induction n with
  | zero =>
    intro items others hitems hothers r s heq
    rw [hitems.eq_nil, hothers.eq_nil] at heq ⊢
    exact ⟨rfl, heq⟩
  | succ n ih =>
    intro items others hitems hothers r s heq
    obtain ⟨a, items, rfl, ha, htail⟩ := hitems.exists_cons
    obtain ⟨b, others, rfl, hb, htail'⟩ := hothers.exists_cons
    simp only [List.flatMap_cons, List.append_assoc] at heq
    obtain ⟨rfl, hrest⟩ := h a b ha hb _ _ heq
    obtain ⟨rfl, hrs⟩ := ih items others htail htail' r s hrest
    exact ⟨rfl, hrs⟩

theorem flatten (m n : Nat) : Delimits (Each m (Each n P)) List.flatten := by
  have hself : Delimits (Each n P) fun items => items :=
    (Delimits.self n).comp (fun _ h => h.length) fun _ _ _ _ heq => heq
  intro items others
  rw [← List.flatMap_id, ← List.flatMap_id]
  exact hself.flatMap m items others

/-- The codes of two values one behind the other. -/
theorem pair {code' : γ → List β} (h : Delimits P code) (h' : Delimits Q code') :
    Delimits (fun p : α × γ => P p.1 ∧ Q p.2) fun p => code p.1 ++ code' p.2 := by
  intro p q hp hq r s heq
  rw [List.append_assoc, List.append_assoc] at heq
  obtain ⟨hfst, hbehind⟩ := h _ _ hp.1 hq.1 _ _ heq
  obtain ⟨hsnd, hrest⟩ := h' _ _ hp.2 hq.2 _ _ hbehind
  exact ⟨Prod.ext hfst hsnd, hrest⟩

/-- The codes of values that together weigh a known amount. -/
theorem flatMap_weighed (h : Delimits P code) {weight : α → Nat} (hpos : ∀ a, P a → 0 < weight a)
    (n : Nat) : Delimits
      (fun items : List α => (items.map weight).sum = n ∧ ∀ a ∈ items, P a) (·.flatMap code) := by
  intro items
  induction items generalizing n with
  | nil =>
    rintro (_ | ⟨b, others⟩) hnil hothers r s heq
    · exact ⟨rfl, heq⟩
    · have hb := hpos b (hothers.2 b (.head _))
      have hsum := hothers.1.trans hnil.1.symm
      simp only [List.map_cons, List.sum_cons, List.map_nil, List.sum_nil] at hsum
      omega
  | cons a items ih =>
    rintro (_ | ⟨b, others⟩) hitems hothers r s heq
    · have ha := hpos a (hitems.2 a (.head _))
      have hsum := hitems.1.trans hothers.1.symm
      simp only [List.map_cons, List.sum_cons, List.map_nil, List.sum_nil] at hsum
      omega
    · simp only [List.flatMap_cons, List.append_assoc] at heq
      obtain ⟨ha, hitems⟩ := hitems.imp id List.forall_mem_cons.mp
      obtain ⟨hb, hothers⟩ := hothers.imp id List.forall_mem_cons.mp
      simp only [List.map_cons, List.sum_cons] at ha hb
      obtain ⟨rfl, hrest⟩ := h a b hitems.1 hothers.1 _ _ heq
      obtain ⟨rfl, hrs⟩ := ih (n - weight a) others ⟨by omega, hitems.2⟩ ⟨by omega, hothers.2⟩
        r s hrest
      exact ⟨rfl, hrs⟩

end Delimits

/-! ## Pieces -/

theorem pieces_inj {k l : List α} (h : pieces n k = pieces n l) : k = l := by
  rw [← flatten_pieces n k, h, flatten_pieces]

theorem pieces_map (f : α → β) (n : Nat) (items : List α) :
    pieces n (items.map f) = (pieces n items).map (·.map f) := by
  fun_induction pieces n items with
  | case1 => rw [List.map_nil, pieces]; rfl
  | case2 a rest ih =>
    rw [List.map_cons, pieces, List.map_cons, List.map_cons, List.map_take, ← List.map_drop, ih]

/-- A list of known length in pieces, if the code can tell pieces of one length. -/
theorem Delimits.pieces {code : List α → List β} {n : Nat} (hn : 0 < n)
    (h : ∀ k ≤ n, Delimits (fun piece => piece.length = k) code) (m : Nat) :
    Delimits (fun items => items.length = m) fun items => (pieces n items).flatMap code := by
  intro items others hitems hothers r s heq
  obtain rfl := hitems
  change (Chip8.pieces n items).flatMap code ++ r = (Chip8.pieces n others).flatMap code ++ s at heq
  fun_induction Chip8.pieces n items generalizing others with
  | case1 =>
    obtain rfl := List.eq_nil_of_length_eq_zero hothers
    rw [Chip8.pieces] at heq
    exact ⟨rfl, heq⟩
  | case2 a items ih =>
    obtain ⟨b, others, rfl⟩ := List.exists_cons_of_length_eq_add_one
      (hothers.trans List.length_cons)
    rw [Chip8.pieces] at heq
    simp only [List.flatMap_cons, List.append_assoc] at heq
    have hlength : others.length = items.length := by simpa using hothers
    have hle : (a :: items.take (n - 1)).length ≤ n := by
      rw [List.length_cons, List.length_take]
      omega
    obtain ⟨hpiece, hrest⟩ := h _ hle _ (b :: others.take (n - 1)) rfl
      (by simp only [List.length_cons, List.length_take, hlength]) _ _ heq
    obtain ⟨hdrop, hrs⟩ := ih _ (by simp only [List.length_drop, hlength]) hrest
    obtain ⟨rfl, htake⟩ := List.cons.inj hpiece
    rw [← items.take_append_drop (n - 1), htake, hdrop, List.take_append_drop]
    exact ⟨rfl, hrs⟩

theorem Each.pieces {items : List α} (hn : 0 < n) (h : Each (m * n) P items) :
    Each m (Each n P) (pieces n items) := by
  induction m generalizing items with
  | zero =>
    rw [Nat.zero_mul] at h
    rw [h.eq_nil, Chip8.pieces]
    exact .nil
  | succ m ih =>
    have hsize : (m + 1) * n = m * n + (n - 1) + 1 := by
      rw [Nat.succ_mul]
      omega
    obtain ⟨a, rest, rfl, ha, hrest⟩ := (hsize ▸ h).exists_cons
    have hlength := hrest.length
    have hpiece : Each (n - 1) P (rest.take (n - 1)) :=
      ⟨by rw [List.length_take]; omega, fun b hb => hrest.all b (List.mem_of_mem_take hb)⟩
    have hothers : Each (m * n) P (rest.drop (n - 1)) :=
      ⟨by rw [List.length_drop]; omega, fun b hb => hrest.all b (List.mem_of_mem_drop hb)⟩
    rw [Chip8.pieces]
    exact .cons (Nat.sub_add_cancel hn ▸ .cons ha hpiece) (ih hothers)

/-- The length of the codes of pieces comes from the length of the list, if the length of
each code comes from the length of the piece. -/
theorem length_pieces_congr {code : List α → List β} (n : Nat)
    (hcode : ∀ p q : List α, p.length = q.length → (code p).length = (code q).length)
    {items others : List α} (h : items.length = others.length) :
    ((pieces n items).flatMap code).length = ((pieces n others).flatMap code).length := by
  fun_induction pieces n items generalizing others with
  | case1 =>
    obtain rfl := List.eq_nil_of_length_eq_zero h.symm
    rw [pieces]
  | case2 a items ih =>
    obtain ⟨b, others, rfl⟩ := List.exists_cons_of_length_eq_add_one (h.symm.trans List.length_cons)
    have hlength : items.length = others.length := by simpa using h
    have hpiece : (code (a :: items.take (n - 1))).length =
        (code (b :: others.take (n - 1))).length :=
      hcode _ _ (by simp only [List.length_cons, List.length_take, hlength])
    have hdrop : (items.drop (n - 1)).length = (others.drop (n - 1)).length := by
      rw [List.length_drop, List.length_drop, hlength]
    rw [pieces, List.flatMap_cons, List.flatMap_cons, List.length_append, List.length_append,
      hpiece, ih hdrop]

/-! ## Columns -/

theorem columns_eq {rows : List (List α)} (hm : 0 < m) (h : Each m (Each n P) rows) :
    columns rows = rows.foldr (List.zipWith List.cons) (List.replicate n []) := by
  obtain ⟨row, rest, rfl⟩ := List.exists_cons_of_length_pos (h.length.symm ▸ hm)
  rw [columns, List.head?_cons, Option.map_some, Option.getD_some, (h.all row (.head rest)).length]

theorem Each.foldr_columns {rows : List (List α)} (h : Each m (Each n P) rows) :
    Each n (Each m P) (rows.foldr (List.zipWith List.cons) (List.replicate n [])) := by
  induction m generalizing rows with
  | zero =>
    rw [h.eq_nil]
    exact ⟨List.length_replicate, fun c hc => List.eq_of_mem_replicate hc ▸ .nil⟩
  | succ m ih =>
    obtain ⟨row, rows, rfl, hrow, hrows⟩ := h.exists_cons
    exact hrow.zipWith (ih hrows) fun _ _ => .cons

theorem Each.columns {rows : List (List α)} (hm : 0 < m) (h : Each m (Each n P) rows) :
    Each n (Each m P) (columns rows) :=
  columns_eq hm h ▸ h.foldr_columns

theorem zipWith_cons_inj {k l : List α} {c d : List (List α)} (hk : k.length = c.length)
    (hl : l.length = d.length) (h : k.zipWith List.cons c = l.zipWith List.cons d) :
    k = l ∧ c = d := by
  have hzip : ∀ (k : List α) (c : List (List α)),
      k.zipWith List.cons c = (k.zip c).map fun p => p.1 :: p.2 := by
    intro k c
    rw [List.map_zip_eq_zipWith]
    rfl
  rw [hzip, hzip] at h
  exact zip_inj hk hl ((List.map_inj_right fun _ _ heq =>
    Prod.ext (List.cons.inj heq).1 (List.cons.inj heq).2).mp h)

/-- The columns of a table tell its rows. -/
theorem columns_inj {rows others : List (List α)} (hm : 0 < m) (h : Each m (Each n P) rows)
    (h' : Each m (Each n P) others) (heq : columns rows = columns others) : rows = others := by
  rw [columns_eq hm h, columns_eq hm h'] at heq
  clear hm
  induction m generalizing rows others with
  | zero => rw [h.eq_nil, h'.eq_nil]
  | succ m ih =>
    obtain ⟨row, rows, rfl, hrow, hrows⟩ := h.exists_cons
    obtain ⟨row', others, rfl, hrow', hothers⟩ := h'.exists_cons
    obtain ⟨rfl, hrest⟩ :=
      zipWith_cons_inj (hrow.length.trans hrows.foldr_columns.length.symm)
        (hrow'.length.trans hothers.foldr_columns.length.symm) heq
    rw [ih hrows hothers hrest]

/-! ## Bits -/

/-- Numbers of `n` bits that agree in them are the same. -/
theorem testBits_inj {c d : Nat} (hc : c < 2 ^ n) (hd : d < 2 ^ n)
    (h : (List.range n).map c.testBit = (List.range n).map d.testBit) : c = d := by
  refine Nat.eq_of_testBit_eq fun i => ?_
  by_cases hi : i < n
  · exact List.map_inj_left.mp h i (List.mem_range.mpr hi)
  · have hpow := Nat.pow_le_pow_right Nat.two_pos (Nat.le_of_not_lt hi)
    rw [Nat.testBit_lt_two_pow (Nat.lt_of_lt_of_le hc hpow),
      Nat.testBit_lt_two_pow (Nat.lt_of_lt_of_le hd hpow)]

/-- Bits as a number, the lowest first. -/
def value : List Bool → Nat := List.foldr (fun x n => 2 * n + x.toNat) 0

theorem value_cons (b : Bool) (bs : List Bool) : value (b :: bs) = 2 * value bs + b.toNat := rfl

theorem value_lt (bs : List Bool) : value bs < 2 ^ bs.length := by
  induction bs with
  | nil => decide
  | cons b bs ih =>
    have hb := b.toNat_le
    rw [value_cons, List.length_cons, Nat.pow_succ]
    omega

theorem value_inj {k l : List Bool} (hlen : k.length = l.length) (h : value k = value l) :
    k = l := by
  induction k generalizing l with
  | nil => exact (List.eq_nil_of_length_eq_zero hlen.symm).symm
  | cons b k ih =>
    obtain ⟨c, l, rfl⟩ := List.exists_cons_of_length_eq_add_one (hlen.symm.trans List.length_cons)
    rw [value_cons, value_cons] at h
    have hb := b.toNat_le
    have hc := c.toNat_le
    have hrest := ih (Nat.succ.inj hlen) (by omega)
    have hbit : b = c := by
      refine Bool.eq_iff_iff.mpr ?_
      rw [← Bool.toNat_eq_one, ← Bool.toNat_eq_one]
      omega
    rw [hbit, hrest]

/-- Eight bits at most, read into a byte, are its value. -/
theorem toNat_foldr {bs : List Bool} (h : bs.length ≤ 8) :
    (bs.foldr (fun x n => 2 * n + x.toUInt8) (0 : UInt8)).toNat = value bs := by
  induction bs with
  | nil => rfl
  | cons b bs ih =>
    have hlt := value_lt (b :: bs)
    have hle : 2 ^ (b :: bs).length ≤ 2 ^ 8 := Nat.pow_le_pow_right Nat.two_pos h
    have hb : b.toUInt8.toNat = b.toNat := by cases b <;> rfl
    rw [value_cons] at hlt ⊢
    have hsum : 2 * value bs + b.toNat < 256 := Nat.lt_of_lt_of_le hlt hle
    rw [List.foldr_cons, UInt8.toNat_add, UInt8.toNat_mul, ih (Nat.le_of_succ_le h), hb]
    exact (Nat.mod_add_mod _ _ _).trans (Nat.mod_eq_of_lt hsum)

theorem foldr_bits_inj {k l : List Bool} (hk : k.length ≤ 8) (hlen : k.length = l.length)
    (h : k.foldr (fun x n => 2 * n + x.toUInt8) (0 : UInt8) =
      l.foldr (fun x n => 2 * n + x.toUInt8) 0) : k = l := by
  have hvalue := congrArg UInt8.toNat h
  rw [toNat_foldr hk, toNat_foldr (hlen ▸ hk)] at hvalue
  exact value_inj hlen hvalue

end Chip8
