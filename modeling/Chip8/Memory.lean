import Chip8.Layout

/-!
# Blocks of bytes in fixed storage

Memory and the register file are vectors of bytes. Instructions and the loader
move whole blocks between them: `readBlock?` and `writeBlock?` succeed exactly
when the block lies inside the vector, with the end computed in unbounded
naturals, so a block never wraps around the end of the address space.

Results:
* `getElem_overwrite`: what each cell holds after a block was written.
* `isSome_readBlock?`, `isSome_writeBlock?`: when a block is in range.
* `toNat_bigEndian`: the word that two bytes spell.
-/
namespace Chip8

abbrev Memory := Vector UInt8 4096

abbrev Registers := Vector UInt8 16

variable {α : Type} {n : Nat}

def put (xs : Vector α n) (i : Fin n) (a : α) : Vector α n := xs.set i a i.isLt

/-! ## Blocks -/

/-- Writes the items of a list one after the other from `start` on; what falls
past the end is dropped. -/
def overwrite (v : Vector α n) (start : Nat) : List α → Vector α n
  | [] => v
  | a :: rest => overwrite (v.setIfInBounds start a) (start + 1) rest

/-- After a block write, a cell holds the item that landed on it, or what it
held before. -/
theorem getElem_overwrite (v : Vector α n) (start : Nat) (items : List α) (k : Nat) (hk : k < n) :
    (overwrite v start items)[k] =
      if h : start ≤ k ∧ k < start + items.length then items[k - start] else v[k] := by
  induction items generalizing v start with
  | nil =>
    have h : ¬ (start ≤ k ∧ k < start + ([] : List α).length) := by
      simp only [List.length_nil]; omega
    rw [dif_neg h, overwrite]
  | cons a rest ih =>
    rw [overwrite, ih, Vector.getElem_setIfInBounds]
    by_cases h1 : start = k
    · subst h1
      rw [dif_neg (by omega), dif_pos (by simp only [List.length_cons]; omega)]
      simp
    · by_cases h2 : start + 1 ≤ k ∧ k < start + 1 + rest.length
      · have h3 : start ≤ k ∧ k < start + (a :: rest).length := by
          simp only [List.length_cons]; omega
        have h4 : k - start = (k - (start + 1)) + 1 := by omega
        rw [dif_pos h2, dif_pos h3]
        simp only [h4, List.getElem_cons_succ]
      · have h3 : ¬ (start ≤ k ∧ k < start + (a :: rest).length) := by
          simp only [List.length_cons]; omega
        rw [dif_neg h2, dif_neg h3, if_neg h1]

theorem getElem_overwrite_of_lt {v : Vector α n} {start : Nat} {items : List α} {k : Nat}
    {hk : k < n} (hs : start ≤ k) (hi : k - start < items.length) :
    (overwrite v start items)[k] = items[k - start] := by
  rw [getElem_overwrite, dif_pos (by omega)]

theorem getElem_overwrite_of_outside {v : Vector α n} {start : Nat} {items : List α} {k : Nat}
    {hk : k < n} (h : k < start ∨ start + items.length ≤ k) :
    (overwrite v start items)[k] = v[k] := by
  rw [getElem_overwrite, dif_neg (by omega)]

/-- The `length` items from `start` on, if they all lie inside the vector. -/
def readBlock? (v : Vector α n) (start length : Nat) : Option (List α) :=
  if h : start + length ≤ n then
    some (List.ofFn fun j : Fin length => v[start + j.val])
  else none

/-- Writes a block if all of it fits. -/
def writeBlock? (v : Vector α n) (start : Nat) (items : List α) : Option (Vector α n) :=
  if start + items.length ≤ n then some (overwrite v start items) else none

theorem isSome_readBlock? (v : Vector α n) (start length : Nat) :
    (readBlock? v start length).isSome ↔ start + length ≤ n := by
  unfold readBlock?; split <;> simp_all

theorem isSome_writeBlock? (v : Vector α n) (start : Nat) (items : List α) :
    (writeBlock? v start items).isSome ↔ start + items.length ≤ n := by
  unfold writeBlock?; split <;> simp_all

theorem exists_readBlock? (v : Vector α n) {start length : Nat} (h : start + length ≤ n) :
    ∃ items, readBlock? v start length = some items :=
  Option.isSome_iff_exists.mp ((isSome_readBlock? v start length).mpr h)

theorem exists_writeBlock? (v : Vector α n) {start : Nat} {items : List α}
    (h : start + items.length ≤ n) : ∃ w, writeBlock? v start items = some w :=
  Option.isSome_iff_exists.mp ((isSome_writeBlock? v start items).mpr h)

theorem readBlock?_eq_none_iff (v : Vector α n) (start length : Nat) :
    readBlock? v start length = none ↔ n < start + length := by
  rw [← Option.not_isSome_iff_eq_none, isSome_readBlock?, Nat.not_le]

theorem writeBlock?_eq_none_iff (v : Vector α n) (start : Nat) (items : List α) :
    writeBlock? v start items = none ↔ n < start + items.length := by
  rw [← Option.not_isSome_iff_eq_none, isSome_writeBlock?, Nat.not_le]

theorem readBlock?_eq_some {v : Vector α n} {start length : Nat} {items : List α}
    (h : readBlock? v start length = some items) :
    ∃ hb : start + length ≤ n, items = List.ofFn fun j : Fin length => v[start + j.val] := by
  unfold readBlock? at h
  split at h
  · rename_i hb
    exact ⟨hb, (Option.some.inj h).symm⟩
  · cases h

theorem writeBlock?_eq_some {v w : Vector α n} {start : Nat} {items : List α}
    (h : writeBlock? v start items = some w) : w = overwrite v start items := by
  unfold writeBlock? at h
  split at h
  · exact (Option.some.inj h).symm
  · cases h

/-! ## Words -/

/-- The word of two bytes, high byte first. -/
def bigEndian (high low : UInt8) : UInt16 := (high.toUInt16 <<< 8) ||| low.toUInt16

/-- The word at an address, if both of its bytes lie in memory. -/
def Memory.word? (m : Memory) (a : Nat) : Option UInt16 :=
  if h : a + 1 < 4096 then some (bigEndian m[a] m[a + 1]) else none

theorem toNat_bigEndian (high low : UInt8) :
    (bigEndian high low).toNat = 256 * high.toNat + low.toNat := by
  have hh := high.toNat_lt
  have hl := low.toNat_lt
  simp only [bigEndian, UInt16.toNat_or, UInt16.toNat_shiftLeft, UInt8.toNat_toUInt16]
  have h8 : (8 : UInt16).toNat % 16 = 8 := by decide
  rw [h8, Nat.shiftLeft_eq, Nat.mod_eq_of_lt (by omega), Nat.mul_comm]
  exact (Nat.two_pow_add_eq_or_of_lt (i := 8) hl high.toNat).symm

theorem Memory.word?_eq_none_iff (m : Memory) (a : Nat) : m.word? a = none ↔ 4096 ≤ a + 1 := by
  unfold Memory.word?
  split
  · simp; omega
  · simp; omega

end Chip8
