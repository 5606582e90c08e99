import Mathlib.Algebra.Group.Nat.Defs
import Chip8.Instruction

/-!
# The words of the instructions

`Instruction.word` spells an instruction: its pattern of hexadecimal digits
with the operands in their places. `Instruction.ofInt?` reads words. On the
words of sixteen bits the two are inverse, so the patterns of `word` are all
that has a meaning.

Results:
* `Fields.ofInt_val`: every field of an integer is a quotient and a remainder
  of its low sixteen bits.
* `Instruction.word_eq_emod`: what an integer is read as spells its low sixteen
  bits.
* `Instruction.ofInt?_eq_some_iff`: a word is read as an instruction exactly
  when it is the word of that instruction.
-/
namespace Chip8

/-! ## Fields as numbers -/

theorem toNat_extract_ofInt (w : Int) (start len : Nat) :
    ((BitVec.ofInt 16 w).extractLsb' start len).toNat = (w % 65536).toNat / 2 ^ start % 2 ^ len := by
  rw [BitVec.extractLsb'_toNat, BitVec.toNat_ofInt, Nat.shiftRight_eq_div_pow]
  rfl

theorem Fields.ofInt_val (w : Int) :
    (Fields.ofInt w).family.val = (w % 65536).toNat / 4096 ∧
      (Fields.ofInt w).x.val = (w % 65536).toNat / 256 % 16 ∧
      (Fields.ofInt w).y.val = (w % 65536).toNat / 16 % 16 ∧
      (Fields.ofInt w).n.val = (w % 65536).toNat % 16 ∧
      (Fields.ofInt w).nn.toNat = (w % 65536).toNat % 256 ∧
      (Fields.ofInt w).nnn.val = (w % 65536).toNat % 4096 := by
  have hlt : (w % 65536).toNat < 65536 := by omega
  have hf := toNat_extract_ofInt w 12 4
  refine ⟨hf.trans (Nat.mod_eq_of_lt (by omega)), toNat_extract_ofInt w 8 4,
    toNat_extract_ofInt w 4 4, ?_, ?_, ?_⟩
  · exact (toNat_extract_ofInt w 0 4).trans (by simp)
  · exact (toNat_extract_ofInt w 0 8).trans (by simp)
  · exact (toNat_extract_ofInt w 0 12).trans (by simp)

theorem Fields.ofInt_nnn (w : Nat) (f : Fin 16) (nnn : Fin 4096) (hw : w = 4096 * f + nnn) :
    (Fields.ofInt w).family = f ∧ (Fields.ofInt w).nnn = nnn := by
  obtain ⟨h1, -, -, -, -, h6⟩ := Fields.ofInt_val w
  exact ⟨Fin.ext (by omega), Fin.ext (by omega)⟩

theorem Fields.ofInt_xnn (w : Nat) (f x : Fin 16) (nn : UInt8)
    (hw : w = 4096 * f + 256 * x + nn.toNat) :
    (Fields.ofInt w).family = f ∧ (Fields.ofInt w).x = x ∧ (Fields.ofInt w).nn = nn := by
  obtain ⟨h1, h2, -, -, h5, -⟩ := Fields.ofInt_val w
  have := nn.toNat_lt
  exact ⟨Fin.ext (by omega), Fin.ext (by omega), UInt8.toNat_inj.mp (by omega)⟩

theorem Fields.ofInt_xyn (w : Nat) (f x y n : Fin 16)
    (hw : w = 4096 * f + 256 * x + 16 * y + n) :
    (Fields.ofInt w).family = f ∧ (Fields.ofInt w).x = x ∧ (Fields.ofInt w).y = y ∧
      (Fields.ofInt w).n = n := by
  obtain ⟨h1, h2, h3, h4, -, -⟩ := Fields.ofInt_val w
  exact ⟨Fin.ext (by omega), Fin.ext (by omega), Fin.ext (by omega), Fin.ext (by omega)⟩

/-! ## Spelling -/

/-- The last digit of an 8XYN word, which selects the operation. -/
def Arith.nibble : Arith → Nat
  | .copy => 0x0
  | .or => 0x1
  | .and => 0x2
  | .xor => 0x3
  | .add => 0x4
  | .sub => 0x5
  | .shiftRight => 0x6
  | .subFrom => 0x7
  | .shiftLeft => 0xE

theorem Arith.nibble_of_ofNibble? (n : Fin 16) (op : Arith) (h : Arith.ofNibble? n = some op) :
    op.nibble = n.val := by
  unfold Arith.ofNibble? at h
  split at h <;> cases h <;> rfl

namespace Instruction

/-- The word of an instruction. -/
def word : Instruction → Nat
  | .clear => 0x00E0
  | .ret => 0x00EE
  | .jump nnn => 0x1000 + nnn
  | .call nnn => 0x2000 + nnn
  | .skipEqByte x nn => 0x3000 + 0x100 * x + nn.toNat
  | .skipNeByte x nn => 0x4000 + 0x100 * x + nn.toNat
  | .skipEqReg x y => 0x5000 + 0x100 * x + 0x10 * y
  | .setByte x nn => 0x6000 + 0x100 * x + nn.toNat
  | .addByte x nn => 0x7000 + 0x100 * x + nn.toNat
  | .arith op x y => 0x8000 + 0x100 * x + 0x10 * y + op.nibble
  | .skipNeReg x y => 0x9000 + 0x100 * x + 0x10 * y
  | .setIndex nnn => 0xA000 + nnn
  | .jumpOffset nnn => 0xB000 + nnn
  | .random x nn => 0xC000 + 0x100 * x + nn.toNat
  | .draw x y n => 0xD000 + 0x100 * x + 0x10 * y + n
  | .skipPressed x => 0xE000 + 0x100 * x + 0x9E
  | .skipReleased x => 0xE000 + 0x100 * x + 0xA1
  | .getDelay x => 0xF000 + 0x100 * x + 0x07
  | .waitKey x => 0xF000 + 0x100 * x + 0x0A
  | .setDelay x => 0xF000 + 0x100 * x + 0x15
  | .setSound x => 0xF000 + 0x100 * x + 0x18
  | .addIndex x => 0xF000 + 0x100 * x + 0x1E
  | .glyph x => 0xF000 + 0x100 * x + 0x29
  | .decimal x => 0xF000 + 0x100 * x + 0x33
  | .store x => 0xF000 + 0x100 * x + 0x55
  | .load x => 0xF000 + 0x100 * x + 0x65

theorem word_lt (i : Instruction) : i.word < 65536 := by
  cases i with
  | arith op x y => cases op <;> simp only [word, Arith.nibble] <;> omega
  | skipEqByte x nn | skipNeByte x nn | setByte x nn | addByte x nn | random x nn =>
    have := nn.toNat_lt
    simp only [word]; omega
  | _ => simp only [word]; omega

/-! ## Reading what was spelled -/

theorem ofInt?_misc (x : Fin 16) (nn : UInt8) :
    ofInt? (0xF000 + 0x100 * x.val + nn.toNat : Nat) = ofMisc? x nn := by
  obtain ⟨hf, hx, hn⟩ := Fields.ofInt_xnn (0xF000 + 0x100 * x.val + nn.toNat) 0xF x nn rfl
  simp only [ofInt?, hf, hx, hn]

/-- A spelled instruction is read as itself. The cases follow the layout of the
operands: NNN, XNN or XYN. -/
theorem ofInt?_word (i : Instruction) : ofInt? i.word = some i := by
  cases i with
  | clear => rfl
  | ret => rfl
  | jump nnn =>
    obtain ⟨hf, ht⟩ := Fields.ofInt_nnn (word (.jump nnn)) 0x1 nnn rfl
    simp only [ofInt?, hf, ht]
  | call nnn =>
    obtain ⟨hf, ht⟩ := Fields.ofInt_nnn (word (.call nnn)) 0x2 nnn rfl
    simp only [ofInt?, hf, ht]
  | skipEqByte x nn =>
    obtain ⟨hf, hx, hn⟩ := Fields.ofInt_xnn (word (.skipEqByte x nn)) 0x3 x nn rfl
    simp only [ofInt?, hf, hx, hn]
  | skipNeByte x nn =>
    obtain ⟨hf, hx, hn⟩ := Fields.ofInt_xnn (word (.skipNeByte x nn)) 0x4 x nn rfl
    simp only [ofInt?, hf, hx, hn]
  | skipEqReg x y =>
    obtain ⟨hf, hx, hy, hn⟩ := Fields.ofInt_xyn (word (.skipEqReg x y)) 0x5 x y 0 rfl
    simp only [ofInt?, hf, hx, hy, hn, if_true]
  | setByte x nn =>
    obtain ⟨hf, hx, hn⟩ := Fields.ofInt_xnn (word (.setByte x nn)) 0x6 x nn rfl
    simp only [ofInt?, hf, hx, hn]
  | addByte x nn =>
    obtain ⟨hf, hx, hn⟩ := Fields.ofInt_xnn (word (.addByte x nn)) 0x7 x nn rfl
    simp only [ofInt?, hf, hx, hn]
  | arith op x y =>
    obtain ⟨hf, hx, hy, hn⟩ := Fields.ofInt_xyn (word (.arith op x y)) 0x8 x y
      (Fin.ofNat 16 op.nibble) (by cases op <;> rfl)
    simp only [ofInt?, hf, hx, hy, hn]
    cases op <;> rfl
  | skipNeReg x y =>
    obtain ⟨hf, hx, hy, hn⟩ := Fields.ofInt_xyn (word (.skipNeReg x y)) 0x9 x y 0 rfl
    simp only [ofInt?, hf, hx, hy, hn, if_true]
  | setIndex nnn =>
    obtain ⟨hf, ht⟩ := Fields.ofInt_nnn (word (.setIndex nnn)) 0xA nnn rfl
    simp only [ofInt?, hf, ht]
  | jumpOffset nnn =>
    obtain ⟨hf, ht⟩ := Fields.ofInt_nnn (word (.jumpOffset nnn)) 0xB nnn rfl
    simp only [ofInt?, hf, ht]
  | random x nn =>
    obtain ⟨hf, hx, hn⟩ := Fields.ofInt_xnn (word (.random x nn)) 0xC x nn rfl
    simp only [ofInt?, hf, hx, hn]
  | draw x y n =>
    obtain ⟨hf, hx, hy, hn⟩ := Fields.ofInt_xyn (word (.draw x y n)) 0xD x y n rfl
    simp only [ofInt?, hf, hx, hy, hn]
  | skipPressed x =>
    obtain ⟨hf, hx, hn⟩ := Fields.ofInt_xnn (word (.skipPressed x)) 0xE x 0x9E rfl
    simp only [ofInt?, hf, hx, hn, if_true]
  | skipReleased x =>
    obtain ⟨hf, hx, hn⟩ := Fields.ofInt_xnn (word (.skipReleased x)) 0xE x 0xA1 rfl
    simp only [ofInt?, hf, hx, hn]
    rfl
  | getDelay x => exact ofInt?_misc x 0x07
  | waitKey x => exact ofInt?_misc x 0x0A
  | setDelay x => exact ofInt?_misc x 0x15
  | setSound x => exact ofInt?_misc x 0x18
  | addIndex x => exact ofInt?_misc x 0x1E
  | glyph x => exact ofInt?_misc x 0x29
  | decimal x => exact ofInt?_misc x 0x33
  | store x => exact ofInt?_misc x 0x55
  | load x => exact ofInt?_misc x 0x65

/-! ## Spelling what was read -/

theorem word_of_ofMisc? (x : Fin 16) (nn : UInt8) (i : Instruction)
    (h : ofMisc? x nn = some i) : i.word = 0xF000 + 0x100 * x.val + nn.toNat := by
  unfold ofMisc? at h
  split at h <;> cases h <;> rfl

/-- Whatever an integer is read as spells its low sixteen bits again. -/
theorem word_eq_emod {w : Int} {i : Instruction} (h : ofInt? w = some i) :
    (i.word : Int) = w % 65536 := by
  obtain ⟨h1, h2, h3, h4, h5, h6⟩ := Fields.ofInt_val w
  have hb : ((w % 65536).toNat : Int) = w % 65536 := by omega
  generalize (w % 65536).toNat = low at *
  unfold ofInt? at h
  generalize Fields.ofInt w = g at *
  dsimp only at h
  split at h
  case h_1 =>
    -- the family 0 compares the whole word
    split at h
    · cases h; simp only [word]; omega
    · split at h
      · cases h; simp only [word]; omega
      · cases h
  case h_6 hf | h_10 hf =>
    rw [hf] at h1
    split at h
    · rename_i hn
      rw [hn] at h4
      cases h; simp only [word]; omega
    · cases h
  case h_9 hf =>
    rw [hf] at h1
    obtain ⟨op, hop, rfl⟩ := Option.map_eq_some_iff.mp h
    have := Arith.nibble_of_ofNibble? g.n op hop
    simp only [word]; omega
  case h_15 hf =>
    rw [hf] at h1
    split at h
    · rename_i hn
      simp only [hn, UInt8.reduceToNat] at h5
      cases h; simp only [word]; omega
    · split at h
      · rename_i hn
        simp only [hn, UInt8.reduceToNat] at h5
        cases h; simp only [word]; omega
      · cases h
  case h_16 =>
    have hf : g.family.val = 15 := by grind
    have := word_of_ofMisc? g.x g.nn i h
    omega
  all_goals
    rename_i hf
    rw [hf] at h1
    cases h; simp only [word]; omega

/-- Whatever a word of sixteen bits is read as spells it again. -/
theorem word_of_ofInt? (w : Nat) (hw : w < 65536) (i : Instruction) (h : ofInt? w = some i) :
    i.word = w := by
  have := word_eq_emod h
  omega

theorem ofInt?_eq_some_iff {w : Nat} (hw : w < 65536) {i : Instruction} :
    ofInt? w = some i ↔ i.word = w :=
  ⟨word_of_ofInt? w hw i, fun h => h ▸ ofInt?_word i⟩

/-- No two instructions have one word. -/
theorem word_inj {i j : Instruction} (h : i.word = j.word) : i = j := by
  have hi := i.ofInt?_word
  rw [h, j.ofInt?_word] at hi
  exact (Option.some.inj hi).symm

end Instruction
end Chip8
