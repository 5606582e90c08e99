import Chip8.Loader
import Chip8.Proofs.History

/-!
# Loading programs

A program is a block of bytes that is put into memory (`Placed`): each byte at its place
and everything else as it was. That leaves no choice, so what loads do to each other, and
what is fetched from a loaded program, follows from the relation.

A program that comes from a file is loaded like any other, if the file can be read. Of
what can go wrong, all but one are refusals of the program; a path with a NUL character,
which can name no file at all, is an error of its own kind.

Results:
* `placed_overwrite`, `Placed.unique`, `Placed.over`: blocks in memory.
* `load_eq_error_iff`, `placed_of_load`: when a program is refused, and what it leaves.
* `load_over`, `fetch_of_placed`: a load after a load, and the words of a program.
* `loadRom_of_ok`, `loadRom_of_error`, `loadRom_unrefused_iff`: programs in files.
* `load_exact`: all of it.
-/
namespace Chip8

namespace Machine

variable {m t u : Machine} {start : Nat} {block image : List UInt8}

/-! ## Blocks in memory -/

/-- `t` is the machine `m` with a block of bytes in memory from an address on. -/
structure Placed (m t : Machine) (start : Nat) (block : List UInt8) : Prop where
  written : ∀ i < block.length, t.memory[start + i]? = block[i]?
  kept : ∀ a : Nat, a < start ∨ start + block.length ≤ a → t.memory[a]? = m.memory[a]?
  rest : ∃ memory, t = { m with memory }

theorem placed_overwrite (m : Machine) (h : start + block.length ≤ 4096) :
    m.Placed { m with memory := overwrite m.memory start block } start block := by
  refine ⟨?_, ?_, _, rfl⟩
  · intro i hi
    have hin : start + i < 4096 := by omega
    have hback : start + i - start = i := by omega
    rw [Vector.getElem?_eq_getElem hin, List.getElem?_eq_getElem hi,
      getElem_overwrite_of_lt (by omega) (by omega)]
    simp only [hback]
  · intro a ha
    by_cases hin : a < 4096
    · rw [Vector.getElem?_eq_getElem hin, Vector.getElem?_eq_getElem hin,
        getElem_overwrite_of_outside ha]
    · rw [Vector.getElem?_eq_none (by omega), Vector.getElem?_eq_none (by omega)]

theorem Placed.unique (ht : m.Placed t start block) (hu : m.Placed u start block) : t = u := by
  have hcells : ∀ a : Nat, t.memory[a]? = u.memory[a]? := by
    intro a
    by_cases ha : a < start ∨ start + block.length ≤ a
    · rw [ht.kept a ha, hu.kept a ha]
    · have hat : start + (a - start) = a := by omega
      rw [← hat, ht.written _ (by omega), hu.written _ (by omega)]
  obtain ⟨memory, rfl⟩ := ht.rest
  obtain ⟨memory', rfl⟩ := hu.rest
  have hmemory : memory = memory' := by
    apply Vector.ext
    intro k hk
    simpa only [Vector.getElem?_eq_getElem hk, Option.some.injEq] using hcells k
  rw [hmemory]

/-- A block that is at least as long covers what was put there before. -/
theorem Placed.over {later : List UInt8} (h : m.Placed t start block)
    (hlater : t.Placed u start later) (hle : block.length ≤ later.length) :
    m.Placed u start later := by
  refine ⟨hlater.written, fun a ha => ?_, ?_⟩
  · rw [hlater.kept a ha, h.kept a (by omega)]
  · obtain ⟨memory, rfl⟩ := h.rest
    exact hlater.rest

/-! ## Programs -/

theorem load_eq_error_iff {e : ProgramTooLarge} :
    m.load image = .error e ↔ 3584 < image.length ∧ e = ⟨image.length, 3584⟩ := by
  unfold Machine.load
  by_cases h : image.length ≤ maxProgramSize
  · rw [if_pos h]
    have hfits : image.length ≤ 3584 := h
    simp only [reduceCtorEq, false_iff]
    omega
  · rw [if_neg h, Except.error.injEq]
    exact ⟨fun he => ⟨Nat.not_le.mp h, he.symm⟩, fun he => he.2.symm⟩

theorem placed_of_load (h : image.length ≤ 3584) (m : Machine) :
    ∃ t, m.load image = .ok t ∧ m.Placed t 0x200 image := by
  have hroom : 0x200 + image.length ≤ 4096 := by omega
  exact ⟨_, if_pos h, m.placed_overwrite hroom⟩

/-- A refused program changes nothing. -/
theorem handle_load_of_over (h : 3584 < image.length) (m : Machine) :
    m.handle (.load image) = m := by
  have hrefused : m.load image = .error ⟨image.length, 3584⟩ := load_eq_error_iff.mpr ⟨h, rfl⟩
  simp only [handle, hrefused, unlessRefused]

/-- A program leaves nothing of one that was loaded before it and is no longer. -/
theorem load_over {later : List UInt8} (h : image.length ≤ later.length) (m : Machine) :
    (m.handle (.load image)).load later = m.load later := by
  by_cases hlater : later.length ≤ 3584
  · obtain ⟨t, ht, hplaced⟩ := m.placed_of_load (Nat.le_trans h hlater)
    obtain ⟨u, hu, hplaced'⟩ := t.placed_of_load hlater
    obtain ⟨v, hv, hplaced''⟩ := m.placed_of_load hlater
    have hhandle : m.handle (.load image) = t := by simp only [handle, ht, unlessRefused]
    rw [hhandle, hu, hv, (hplaced.over hplaced' h).unique hplaced'']
  · have hrefused : ∀ s : Machine, s.load later = .error ⟨later.length, 3584⟩ := fun s =>
      load_eq_error_iff.mpr ⟨Nat.not_le.mp hlater, rfl⟩
    rw [hrefused, hrefused]

/-- Two bytes of a block that follow each other are fetched as a word, high byte first. -/
theorem fetch_of_placed (h : m.Placed t start block) {i : Nat} (hi : i + 1 < block.length)
    (hmemory : u.memory = t.memory) (hpc : u.pc.toNat = start + i) :
    ∃ w, u.fetch = .ok (w, u.fetched w) ∧
      w.toNat = 256 * block[i].toNat + block[i + 1].toNat := by
  have hi' : i < block.length := by omega
  have hhigh : t.memory[start + i]? = some block[i] := by
    rw [h.written i hi', List.getElem?_eq_getElem hi']
  have hlow : t.memory[start + (i + 1)]? = some block[i + 1] := by
    rw [h.written (i + 1) hi, List.getElem?_eq_getElem hi]
  obtain ⟨_, hhigh⟩ := Vector.getElem?_eq_some_iff.mp hhigh
  obtain ⟨hin, hlow⟩ := Vector.getElem?_eq_some_iff.mp hlow
  have hword : u.word? = some (bigEndian block[i] block[i + 1]) := by
    refine (u.word?_eq_some_iff _).mpr ⟨by omega, ?_⟩
    simp only [hmemory, hpc]
    rw [toNat_bigEndian, ← hhigh, ← hlow]
    rfl
  exact ⟨_, fetch_eq_ok_iff.mpr ⟨hword, rfl⟩, toNat_bigEndian ..⟩

end Machine

/-! ## Programs in files -/

/-- The program was refused: its file cannot be read, or it is too long. -/
def LoadError.isRefusal : LoadError → Bool
  | .unreadable .. | .tooLarge _ => true
  | .badPath _ => false

namespace Machine

variable {m : Machine} {path : String}

theorem loadRom_of_ok (m : Machine) (log : Log.Logger) (path : String) (image : List UInt8) :
    (m.loadRom log path (.ok image)).2 = (m.load image).mapError .tooLarge := by
  simp only [loadRom, loadContent]
  cases m.load image <;> rfl

theorem loadRom_of_nul (m : Machine) (log : Log.Logger) (path : String) :
    (m.loadRom log path (.error .nul)).2 = .error (.badPath path) := rfl

theorem loadRom_of_error {e : PathError} (he : e ≠ .nul) (m : Machine) (log : Log.Logger)
    (path : String) : (m.loadRom log path (.error e)).2 = .error (.unreadable path e) := by
  cases e with
  | nul => exact absurd rfl he
  | _ => rfl

/-- A program in a file fails to load without being refused exactly if the path of the file
has a NUL character. -/
theorem loadRom_unrefused_iff (m : Machine) (log : Log.Logger) (files : Files) (path : String) :
    (∃ e, (m.loadRom log path (files.read path)).2 = .error e ∧ e.isRefusal = false) ↔
      Char.ofNat 0 ∈ path.toList := by
  rw [← files.read_eq_nul_iff]
  cases files.read path with
  | ok image =>
    refine ⟨?_, nofun⟩
    rintro ⟨e, he, hrefusal⟩
    rw [loadRom_of_ok] at he
    cases hload : m.load image with
    | ok t =>
      rw [hload] at he
      exact nomatch he
    | error tooLarge =>
      rw [hload] at he
      obtain rfl : .tooLarge tooLarge = e := Except.error.inj he
      cases hrefusal
  | error e =>
    by_cases he : e = .nul
    · rw [he, loadRom_of_nul]
      simp [LoadError.isRefusal]
    · rw [loadRom_of_error he]
      simp [LoadError.isRefusal, he]

/-- **Loading.** A program of more than 3584 bytes is refused with its size and the limit,
and nothing changes. Any other lies in memory from 0x200 on and leaves everything else as
it was, so that a program covers one that was loaded before it and is no longer, and two
bytes that follow each other in it are fetched as a word, high byte first. What a file
yields is loaded in the same way. A file that cannot be read is refused too, unless its
path has a NUL character: then, and only then, something else than a refusal comes. -/
theorem load_exact (m : Machine) :
    (∀ image : List UInt8,
      (∀ e, m.load image = .error e ↔ 3584 < image.length ∧ e = ⟨image.length, 3584⟩) ∧
      (3584 < image.length → m.handle (.load image) = m) ∧
      (image.length ≤ 3584 → ∃ t, m.load image = .ok t ∧ m.Placed t 0x200 image ∧
        ∀ (u : Machine) (i : Nat) (hi : i + 1 < image.length),
          u.memory = t.memory → u.pc.toNat = 0x200 + i →
            ∃ w, u.fetch = .ok (w, u.fetched w) ∧
              w.toNat = 256 * image[i].toNat + image[i + 1].toNat) ∧
      ∀ later : List UInt8, image.length ≤ later.length →
        (m.handle (.load image)).load later = m.load later) ∧
    ∀ (log : Log.Logger) (path : String),
      (∀ image, (m.loadRom log path (.ok image)).2 = (m.load image).mapError .tooLarge) ∧
      (∀ e ≠ .nul, (m.loadRom log path (.error e)).2 = .error (.unreadable path e)) ∧
      ∀ files : Files,
        (∃ e, (m.loadRom log path (files.read path)).2 = .error e ∧ e.isRefusal = false) ↔
          Char.ofNat 0 ∈ path.toList := by
  refine ⟨fun image => ⟨fun e => load_eq_error_iff, (handle_load_of_over · m), ?_,
    fun later h => load_over h m⟩, fun log path => ⟨m.loadRom_of_ok log path,
    fun e he => loadRom_of_error he m log path,
    fun files => m.loadRom_unrefused_iff log files path⟩⟩
  intro hfits
  obtain ⟨t, ht, hplaced⟩ := m.placed_of_load hfits
  exact ⟨t, ht, hplaced, fun u i hi hmemory hpc => fetch_of_placed hplaced hi hmemory hpc⟩

/-- One byte more than fit is too many. The last word of a program that fits exactly is the
last word of memory; a program of three bytes covers one of two. -/
theorem load_exact_filling :
    let m := boot ⟨0, 0⟩ .clip
    (3584 < (List.replicate 3585 (0xAB : UInt8)).length ∧
      m.load (List.replicate 3585 0xAB) = .error ⟨3585, 3584⟩ ∧
      m.handle (.load (List.replicate 3585 0xAB)) = m) ∧
    (∃ t w, m.load (List.replicate 3584 0xAB) = .ok t ∧
      ({ t with pc := 0xFFE } : Machine).fetch =
        .ok (w, ({ t with pc := 0xFFE } : Machine).fetched w) ∧
      w.toNat = 0xABAB) ∧
    (m.handle (.load [1, 2])).load [3, 4, 5] = m.load [3, 4, 5] ∧
    (m.loadRom ⟨Log.loaderName, .warning, false, true⟩ "none.ch8" (.error .notFound)).2 =
      .error (.unreadable "none.ch8" .notFound) := by
  intro m
  have hlong : 3584 < (List.replicate 3585 (0xAB : UInt8)).length := by
    rw [List.length_replicate]; decide
  have hfits : (List.replicate 3584 (0xAB : UInt8)).length ≤ 3584 :=
    Nat.le_of_eq List.length_replicate
  obtain ⟨hprograms, hfiles⟩ := load_exact m
  obtain ⟨hrefused, hkept, -, -⟩ := hprograms (List.replicate 3585 0xAB)
  obtain ⟨t, ht, -, hwords⟩ := (hprograms (List.replicate 3584 0xAB)).2.2.1 hfits
  obtain ⟨w, hfetch, hw⟩ := hwords { t with pc := 0xFFE } 3582
    (by rw [List.length_replicate]; decide) rfl rfl
  refine ⟨⟨hlong, (hrefused _).mpr ⟨hlong, ?_⟩, hkept hlong⟩, ⟨t, w, ht, hfetch, ?_⟩,
    (hprograms [1, 2]).2.2.2 [3, 4, 5] (by decide), (hfiles _ _).2.1 .notFound nofun⟩
  · rw [List.length_replicate]
    rfl
  · rw [hw, List.getElem_replicate, List.getElem_replicate]
    rfl

/-- A path that can name no file is not refused as a program. -/
theorem loadRom_of_nameless :
    let content := Files.empty.read "a\x00b"
    content = .error .nul ∧
      ((boot ⟨0, 0⟩ .clip).loadRom ⟨Log.loaderName, .warning, false, true⟩ "a\x00b" content).2 =
        .error (.badPath "a\x00b") ∧
      LoadError.isRefusal (.badPath "a\x00b") = false := by
  have hnul : Files.empty.read "a\x00b" = .error .nul :=
    (Files.read_eq_nul_iff _ _).mpr (by decide)
  simp only [hnul]
  exact ⟨trivial, rfl, rfl⟩

end Machine
end Chip8
