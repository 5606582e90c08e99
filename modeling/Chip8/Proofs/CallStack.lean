import Chip8.CallStack

/-!
# The call stack as a list

`entries` is what a stack holds, from the bottom. A stack is `Clean` when the
slots not in use are zero; a clean stack is determined by its entries
(`Clean.ext`). A push appends the low twelve bits of an address, a pop takes the
last entry off, and both keep a clean stack clean.

Results:
* `Clean.toList_slots`: the slots of a clean stack are its entries and zeros.
* `entries_push`, `entries_pop`, `pop?_push`: one operation, and one undone.
* `act?_of_inBounds`, `actAll?_of_inBounds`: an operation, and any sequence of them
  that stays in bounds, does to the stack what it does to the list.
* `ops_as_list`: all of it.
-/
namespace Chip8
namespace CallStack

/-- The addresses on the stack, from the bottom. -/
def entries (s : CallStack) : List UInt16 := s.slots.toList.take s.depth

/-- The slots that are not in use are zero. -/
def Clean (s : CallStack) : Prop := ∀ k (h : k < 16), s.depth ≤ k → s.slots[k] = 0

theorem length_entries (s : CallStack) : s.entries.length = s.depth := by
  have := s.depth_le
  rw [entries, List.length_take, Vector.length_toList]; omega

theorem getElem?_entries (s : CallStack) (k : Nat) (h : k < 16) (hd : k < s.depth) :
    s.entries[k]? = some s.slots[k] := by
  rw [entries, List.getElem?_take_of_lt hd, List.getElem?_eq_getElem (by simpa using h),
    Vector.getElem_toList]

theorem clean_empty : Clean empty := fun _ h _ => Vector.getElem_replicate h

theorem Clean.ext {s t : CallStack} (hs : s.Clean) (ht : t.Clean) (h : s.entries = t.entries) :
    s = t := by
  have hd : s.depth = t.depth := by rw [← length_entries, h, length_entries]
  have hslots : s.slots = t.slots := by
    apply Vector.ext
    intro k hk
    by_cases hlt : k < s.depth
    · have h1 := s.getElem?_entries k hk hlt
      have h2 := t.getElem?_entries k hk (hd ▸ hlt)
      rw [← h, h1] at h2
      exact Option.some.inj h2
    · rw [hs k hk (by omega), ht k hk (by omega)]
  cases s; cases t
  cases hd; cases hslots; rfl

/-- A clean stack is its entries, padded with zeros. -/
theorem Clean.toList_slots {s : CallStack} (hs : s.Clean) :
    s.slots.toList = s.entries ++ List.replicate (16 - s.depth) 0 := by
  have hfree : s.slots.toList.drop s.depth = List.replicate (16 - s.depth) 0 := by
    refine List.eq_replicate_iff.mpr ⟨by rw [List.length_drop, Vector.length_toList], ?_⟩
    intro a ha
    obtain ⟨k, hk, rfl⟩ := List.getElem_of_mem ha
    rw [List.length_drop, Vector.length_toList] at hk
    rw [List.getElem_drop, Vector.getElem_toList]
    exact hs (s.depth + k) (by omega) (Nat.le_add_right ..)
  rw [entries, ← hfree, List.take_append_drop]

/-! ## Pushing -/

theorem exists_push? (s : CallStack) (a : UInt16) (h : s.depth < 16) : ∃ t, s.push? a = some t :=
  ⟨_, dif_pos h⟩

theorem push?_eq_some {s t : CallStack} {a : UInt16} (h : s.push? a = some t) :
    ∃ hd : s.depth < 16, t.depth = s.depth + 1 ∧ t.slots = s.slots.set s.depth (a &&& 0xFFF) := by
  unfold push? at h
  split at h
  · rename_i hd
    cases h
    exact ⟨hd, rfl, rfl⟩
  · cases h

theorem entries_push {s t : CallStack} {a : UInt16} (h : s.push? a = some t) :
    t.entries = s.entries ++ [a &&& 0xFFF] := by
  obtain ⟨hd, hdepth, hslots⟩ := push?_eq_some h
  have hl : s.depth < (s.slots.toList.set s.depth (a &&& 0xFFF)).length := by
    rw [List.length_set, Vector.length_toList]; exact hd
  rw [entries, hdepth, hslots, Vector.toList_set, List.take_succ_eq_append_getElem hl,
    List.getElem_set_self, List.take_set_of_le (Nat.le_refl _)]
  rfl

/-- The mask of a push keeps the addresses that fit in twelve bits. -/
theorem mask_eq {a : UInt16} (h : a.toNat < 0x1000) : a &&& 0xFFF = a := by
  apply UInt16.toNat_inj.mp
  rw [UInt16.toNat_and]
  exact (Nat.and_two_pow_sub_one_eq_mod a.toNat 12).trans (Nat.mod_eq_of_lt h)

theorem clean_push {s t : CallStack} {a : UInt16} (h : s.push? a = some t) (hs : s.Clean) :
    t.Clean := by
  obtain ⟨hd, hdepth, hslots⟩ := push?_eq_some h
  intro k hk hle
  simp only [hslots]
  rw [Vector.getElem_set_ne _ _ (by omega)]
  exact hs k hk (by omega)

/-! ## Popping -/

theorem exists_pop? (s : CallStack) (h : 0 < s.depth) : ∃ a t, s.pop? = some (a, t) :=
  ⟨_, _, dif_pos h⟩

theorem pop?_eq_some {s t : CallStack} {a : UInt16} (h : s.pop? = some (a, t)) :
    ∃ hd : s.depth - 1 < 16, s.depth = t.depth + 1 ∧ s.slots[s.depth - 1] = a ∧
      t.slots = s.slots.set (s.depth - 1) 0 := by
  have := s.depth_le
  unfold pop? at h
  split at h
  · cases h
    exact ⟨by omega, by simp only; omega, rfl, rfl⟩
  · cases h

theorem entries_pop {s t : CallStack} {a : UInt16} (h : s.pop? = some (a, t)) :
    s.entries = t.entries ++ [a] := by
  obtain ⟨hd, hdepth, ha, hslots⟩ := pop?_eq_some h
  have ht : s.depth - 1 = t.depth := by omega
  have hl : s.depth - 1 < s.slots.toList.length := by rw [Vector.length_toList]; exact hd
  rw [entries, show s.depth = s.depth - 1 + 1 by omega, List.take_succ_eq_append_getElem hl,
    Vector.getElem_toList, ha, entries, hslots, Vector.toList_set,
    List.take_set_of_le (by omega), ht]

theorem clean_pop {s t : CallStack} {a : UInt16} (h : s.pop? = some (a, t)) (hs : s.Clean) :
    t.Clean := by
  obtain ⟨hd, hdepth, ha, hslots⟩ := pop?_eq_some h
  intro k hk hle
  simp only [hslots]
  by_cases he : s.depth - 1 = k
  · subst he
    exact Vector.getElem_set_self ..
  · rw [Vector.getElem_set_ne _ _ he]
    exact hs k hk (by omega)

/-- A pop undoes a push, but for the bits that the mask took. -/
theorem pop?_push {s t : CallStack} {a : UInt16} (h : s.push? a = some t) (hs : s.Clean) :
    t.pop? = some (a &&& 0xFFF, s) := by
  obtain ⟨-, hdepth, -⟩ := push?_eq_some h
  obtain ⟨b, u, hpop⟩ := t.exists_pop? (by omega)
  have hentries : u.entries ++ [b] = s.entries ++ [a &&& 0xFFF] := by
    rw [← entries_pop hpop, entries_push h]
  obtain ⟨hrest, htop⟩ := List.append_inj' hentries rfl
  rw [hpop, Clean.ext (clean_pop hpop (clean_push h hs)) hs hrest, List.singleton_inj.mp htop]

end CallStack

/-! ## Pushes and pops in any order -/

inductive StackOp
  | push (address : UInt16)
  | pop
  deriving DecidableEq, Repr

namespace StackOp

/-- What it does to a list with the top at the end. -/
def onList (l : List UInt16) : StackOp → List UInt16
  | .push a => l ++ [a &&& 0xFFF]
  | .pop => l.dropLast

/-- The addresses that were pushed and not popped, from the bottom. -/
def unpopped (ops : List StackOp) : List UInt16 := ops.foldl onList []

/-- From the given depth on, nothing is pushed at depth 16 or popped at depth 0. -/
def inBounds : Nat → List StackOp → Bool
  | _, [] => true
  | depth, .push _ :: ops => depth < 16 && inBounds (depth + 1) ops
  | depth, .pop :: ops => 0 < depth && inBounds (depth - 1) ops

end StackOp

namespace CallStack

def act? (s : CallStack) : StackOp → Option CallStack
  | .push a => s.push? a
  | .pop => s.pop?.map Prod.snd

def actAll? (s : CallStack) (ops : List StackOp) : Option CallStack := ops.foldlM act? s

/-- One operation does to a clean stack what it does to the list of its entries. -/
theorem act?_of_inBounds {s : CallStack} (hs : s.Clean) {op : StackOp} {ops : List StackOp}
    (h : StackOp.inBounds s.depth (op :: ops) = true) :
    ∃ t, s.act? op = some t ∧ t.entries = op.onList s.entries ∧ t.Clean ∧
      StackOp.inBounds t.depth ops = true := by
  cases op with
  | push a =>
    simp only [StackOp.inBounds, Bool.and_eq_true, decide_eq_true_eq] at h
    obtain ⟨t, ht⟩ := s.exists_push? a h.1
    obtain ⟨-, hdepth, -⟩ := push?_eq_some ht
    exact ⟨t, ht, entries_push ht, clean_push ht hs, hdepth ▸ h.2⟩
  | pop =>
    simp only [StackOp.inBounds, Bool.and_eq_true, decide_eq_true_eq] at h
    obtain ⟨a, t, ht⟩ := s.exists_pop? h.1
    obtain ⟨-, hdepth, -⟩ := pop?_eq_some ht
    have hback : s.depth - 1 = t.depth := by omega
    refine ⟨t, by rw [act?, ht]; rfl, ?_, clean_pop ht hs, hback ▸ h.2⟩
    rw [entries_pop ht, StackOp.onList, List.dropLast_concat]

theorem actAll?_of_inBounds {s : CallStack} (hs : s.Clean) {before after : List StackOp}
    (h : StackOp.inBounds s.depth (before ++ after) = true) :
    ∃ t, s.actAll? before = some t ∧ t.entries = before.foldl StackOp.onList s.entries ∧
      t.Clean ∧ StackOp.inBounds t.depth after = true := by
  -- What is left to do stays in bounds at the depth that was reached, so the induction
  -- can start over from any clean stack.
  induction before generalizing s with
  | nil => exact ⟨s, rfl, rfl, hs, h⟩
  | cons op before ih =>
    obtain ⟨t, ht, hentries, hclean, hrest⟩ := act?_of_inBounds hs h
    obtain ⟨u, hu, hentries', hclean', hrest'⟩ := ih hclean hrest
    refine ⟨u, ?_, ?_, hclean', hrest'⟩
    · rw [actAll?, List.foldlM_cons, ht]
      exact hu
    · rw [hentries', hentries, List.foldl_cons]

/-- **The call stack is a list with a bound.** Whatever is pushed and popped in turn on a
stack that starts empty, without a push at depth 16 or a pop at depth 0: at every point
the slots are the low twelve bits of the addresses that were pushed and not popped,
oldest first, and zeros up to sixteen; the depth counts them, and the stack is empty or
full if there are none or sixteen. A pop yields the last of them. A push can be taken
back: the pop after it yields the address, masked, and the stack as it was. -/
theorem ops_as_list {before after : List StackOp}
    (h : StackOp.inBounds 0 (before ++ after) = true) :
    ∃ s, empty.actAll? before = some s ∧
      let l := StackOp.unpopped before
      s.slots.toList = l ++ List.replicate (16 - l.length) 0 ∧ s.depth = l.length ∧
      (s.isEmpty = true ↔ l.length = 0) ∧ (s.isFull = true ↔ l.length = 16) ∧
      (∀ rest, after = .pop :: rest → ∃ a t, s.pop? = some (a, t) ∧ l.getLast? = some a) ∧
      ∀ a, l.length < 16 → ∃ t, s.push? a = some t ∧ t.pop? = some (a &&& 0xFFF, s) := by
  obtain ⟨s, hs, hentries, hclean, hrest⟩ := actAll?_of_inBounds (s := empty) clean_empty h
  have hl : StackOp.unpopped before = s.entries := hentries.symm
  have hdepth : s.depth = s.entries.length := s.length_entries.symm
  refine ⟨s, hs, ?_⟩
  rw [hl]
  refine ⟨hdepth ▸ hclean.toList_slots, hdepth, hdepth ▸ beq_iff_eq, hdepth ▸ beq_iff_eq, ?_, ?_⟩
  · rintro rest rfl
    obtain ⟨t, ht, -⟩ := act?_of_inBounds hclean hrest
    obtain ⟨⟨a, u⟩, hpop, -⟩ := Option.map_eq_some_iff.mp ht
    exact ⟨a, u, hpop, by rw [entries_pop hpop, List.getLast?_concat]⟩
  · intro a hroom
    obtain ⟨t, ht⟩ := s.exists_push? a (hdepth ▸ hroom)
    exact ⟨t, ht, pop?_push ht hclean⟩

/-- Sixteen addresses of more than twelve bits fill the stack, and one of them comes off. -/
theorem ops_as_list_filled :
    let pushes := List.replicate 16 (StackOp.push 0xFABC)
    StackOp.inBounds 0 (pushes ++ [.pop, .push 0x1202]) = true ∧
    (∃ s, empty.actAll? pushes = some s ∧ s.slots.toList = List.replicate 16 0xABC ∧
      s.isFull = true ∧ ∃ t, s.pop? = some (0xABC, t)) ∧
    ∃ s, empty.actAll? (pushes ++ [.pop, .push 0x1202]) = some s ∧
      s.slots.toList = List.replicate 15 0xABC ++ [0x202] := by
  intro pushes
  have hbounds : StackOp.inBounds 0 (pushes ++ [.pop, .push 0x1202]) = true := by decide
  refine ⟨hbounds, ?_, ?_⟩
  · obtain ⟨s, hs, hslots, -, -, hfull, hpop, -⟩ := ops_as_list hbounds
    obtain ⟨a, t, ht, hlast⟩ := hpop _ rfl
    have htop : (StackOp.unpopped pushes).getLast? = some 0xABC := by decide
    obtain rfl : 0xABC = a := Option.some.inj (htop.symm.trans hlast)
    exact ⟨s, hs, hslots.trans (by decide), hfull.mpr (by decide), t, ht⟩
  · have hall : StackOp.inBounds 0 ((pushes ++ [.pop, .push 0x1202]) ++ []) = true := hbounds
    obtain ⟨s, hs, hslots, -⟩ := ops_as_list hall
    exact ⟨s, hs, hslots.trans (by decide)⟩

end CallStack
end Chip8
