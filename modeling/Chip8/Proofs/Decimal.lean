import Chip8.Proofs.Loading
import Chip8.Proofs.Transfer

/-!
# Decimal digits

FX33 puts the hundreds, the tens and the ones of a byte into the three cells at I, and
F265 loads three registers from there. The two count their cells each on its own, one as
a block that is placed in memory, the other as a block of registers (`Loaded`), and meet
at the same bytes. Which register the byte came from does not matter, so it can be one of
the three that are loaded.

Results:
* `decimalDigits_spell`: the digits and the byte.
* `perform_decimal`, `perform_decimal_of_over`: FX33 with and without room.
* `perform_decimal_of_placed`: FX33 where the digits are already.
* `Placed.loaded`: what is loaded from a block.
* `decimal_exact`: all of it.
-/
namespace Chip8
namespace Machine

variable {m t u s : Machine} {x y : Fin 16}

/-- The digits of a byte are at most nine and spell the byte in base ten. -/
theorem decimalDigits_spell (value : UInt8) :
    ∃ hundreds tens ones : UInt8, decimalDigits value = [hundreds, tens, ones] ∧
      hundreds.toNat ≤ 9 ∧ tens.toNat ≤ 9 ∧ ones.toNat ≤ 9 ∧
      100 * hundreds.toNat + 10 * tens.toNat + ones.toNat = value.toNat := by
  have := value.toNat_lt
  refine ⟨_, _, _, rfl, ?_⟩
  simp only [UInt8.toNat_div, UInt8.toNat_mod, UInt8.reduceToNat]
  omega

/-! ## Storing the digits -/

theorem perform_decimal (h : m.index.toNat + 3 ≤ 4096) :
    ∃ t, m.perform (.decimal x) = .ok t ∧
      m.Placed t m.index.toNat (decimalDigits (m.reg x)) := by
  have hroom : m.index.toNat + (decimalDigits (m.reg x)).length ≤ 4096 := h
  obtain ⟨memory, hw⟩ := exists_writeBlock? m.memory hroom
  refine ⟨{ m with memory }, by simp only [perform, hw], ?_⟩
  rw [writeBlock?_eq_some hw]
  exact m.placed_overwrite hroom

/-- Where the digits of a byte are already, storing them again changes nothing. -/
theorem perform_decimal_of_placed (h : m.Placed t m.index.toNat (decimalDigits (m.reg x)))
    (hmemory : s.memory = t.memory) (hindex : s.index = m.index) (hreg : s.reg y = m.reg x)
    (hin : m.index.toNat + 3 ≤ 4096) : s.perform (.decimal y) = .ok s := by
  rw [← hindex] at hin
  obtain ⟨u, hperform, hu⟩ := perform_decimal (m := s) (x := y) hin
  have hthere : s.Placed s s.index.toNat (decimalDigits (s.reg y)) := by
    refine ⟨?_, fun _ _ => rfl, s.memory, rfl⟩
    rw [hmemory, hindex, hreg]
    exact h.written
  rw [hperform, hu.unique hthere]

theorem perform_decimal_of_over (h : 4096 < m.index.toNat + 3) :
    m.perform (.decimal x) = .error .memoryOutOfBounds :=
  perform_of_fault (if_pos h)

/-! ## Storing and loading -/

theorem Placed.index {start : Nat} {block : List UInt8} (h : m.Placed t start block) :
    t.index = m.index := by
  obtain ⟨memory, rfl⟩ := h.rest
  rfl

/-- Registers that are loaded from a block hold the bytes of the block. -/
theorem Placed.loaded {block : List UInt8} (ht : m.Placed t m.index.toNat block)
    (hu : t.Loaded u (· ≤ x)) (j : Fin 16) (hj : j ≤ x) (hin : j.val < block.length) :
    block[j.val]? = some (u.reg j) := by
  rw [← ht.written j hin, ← ht.index]
  exact hu.read j hj

/-- **Digits.** If three cells from I on fit into memory, FX33 and then F265 leave in V0,
V1 and V2 the decimal digits of what VX was, and nothing else has changed but the three
cells. From then on, as long as memory and I stay, FX33 changes nothing for any register
that holds the same byte. If the cells do not fit, FX33 changes nothing at all. -/
theorem decimal_exact (m : Machine) (x : Fin 16) :
    (m.index.toNat + 3 ≤ 4096 →
      ∃ t u, m.Executes (.decimal x) (.ok t) ∧ t.Executes (.load 2) (.ok u) ∧
        ((u.reg 0).toNat ≤ 9 ∧ (u.reg 1).toNat ≤ 9 ∧ (u.reg 2).toNat ≤ 9 ∧
          100 * (u.reg 0).toNat + 10 * (u.reg 1).toNat + (u.reg 2).toNat = (m.reg x).toNat) ∧
        (∀ j, 2 < j → u.reg j = m.reg j) ∧
        (∀ a : Nat, a < m.index.toNat ∨ m.index.toNat + 3 ≤ a → u.memory[a]? = m.memory[a]?) ∧
        (∃ regs, u = { m with memory := t.memory, regs }) ∧
        ∀ (s : Machine) (y : Fin 16), s.memory = t.memory → s.index = m.index →
          s.reg y = m.reg x → s.Executes (.decimal y) (.ok s)) ∧
    (4096 < m.index.toNat + 3 → m.Executes (.decimal x) (.error .memoryOutOfBounds)) := by
  refine ⟨fun hin => ?_, fun hover => executes_of_perform (perform_decimal_of_over hover)⟩
  obtain ⟨t, hstore, ht⟩ := perform_decimal (m := m) (x := x) hin
  -- F265 loads three registers, so what gave FX33 room gives it room too.
  have hin' : t.index.toNat + 3 ≤ 4096 := by rw [ht.index]; exact hin
  obtain ⟨u, hload, hu⟩ := perform_load (m := t) (x := 2) hin'
  have hdigit (j : Fin 16) (hj : j ≤ 2) : (decimalDigits (m.reg x))[j.val]? = some (u.reg j) :=
    ht.loaded hu j hj (Nat.lt_succ_of_le hj)
  obtain ⟨hundreds, tens, ones, hdigits, hvalue⟩ := decimalDigits_spell (m.reg x)
  rw [hdigits] at hdigit
  obtain rfl := Option.some.inj (hdigit 0 (by decide))
  obtain rfl := Option.some.inj (hdigit 1 (by decide))
  obtain rfl := Option.some.inj (hdigit 2 (by decide))
  refine ⟨t, u, executes_of_perform hstore, executes_of_perform hload, hvalue, ?_, ?_, ?_, ?_⟩
  · intro j hj
    obtain ⟨memory, rfl⟩ := ht.rest
    exact hu.kept j (Fin.not_le.mpr hj)
  · intro a ha
    obtain ⟨regs, rfl⟩ := hu.rest
    exact ht.kept a ha
  · obtain ⟨memory, rfl⟩ := ht.rest
    exact hu.rest
  · intro s y hmemory hsame hy
    exact executes_of_perform (perform_decimal_of_placed ht hmemory hsame hy hin)

/-- V1 holds 253, and three cells are left between I and the end of memory. -/
def reckoning : Machine :=
  { blank ⟨0, 0⟩ .clip with
    regs := overwrite (Vector.replicate 16 0) 0 [7, 253, 9, 11]
    index := 0xFFD }

/-- The byte comes from a register that is loaded again. With I one further on, the last
digit has no room. -/
theorem decimal_exact_reckoning :
    (reckoning.index.toNat + 3 ≤ 4096 ∧
      ∃ t u, reckoning.execute 0xF133 = .ok t ∧ t.execute 0xF265 = .ok u ∧
        (u.reg 0).toNat = 2 ∧ (u.reg 1).toNat = 5 ∧ (u.reg 2).toNat = 3 ∧ u.reg 3 = 11 ∧
        ({ reckoning with memory := t.memory } : Machine).execute 0xF133 =
          .ok { reckoning with memory := t.memory }) ∧
    let m := { reckoning with index := 0xFFE }
    4096 < m.index.toNat + 3 ∧ m.execute 0xF133 = .error .memoryOutOfBounds := by
  have hin : reckoning.index.toNat + 3 ≤ 4096 := by decide
  have hover : 4096 < ({ reckoning with index := 0xFFE } : Machine).index.toNat + 3 := by decide
  obtain ⟨t, u, hstore, hload, ⟨h0, h1, h2, hvalue⟩, hkept, -, -, hagain⟩ :=
    (decimal_exact reckoning 1).1 hin
  have hbyte : (reckoning.reg 1).toNat = 253 := by decide
  refine ⟨⟨hin, t, u, hstore.1, hload.1, by omega, by omega, by omega, ?_, ?_⟩, hover,
    ((decimal_exact _ 1).2 hover).1⟩
  · exact (hkept 3 (by decide)).trans (by decide)
  · exact (hagain { reckoning with memory := t.memory } 1 rfl rfl rfl).1

end Machine
end Chip8
