/-!
# Random bytes

The random source is counter based: a key of two 32-bit words is hashed with
Threefry-2x32 in twenty rounds. Drawing a byte splits the key into a successor
and a subkey; the byte comes from the subkey, so the stream is a function of the
key alone.
-/
namespace Chip8

/-- A key of the random source. -/
structure RandomKey where
  a : UInt32
  b : UInt32
  deriving DecidableEq, Repr

structure SeedError where
  seed : Int
  deriving DecidableEq, Repr

def SeedError.message (_ : SeedError) : String := "Python int too large to convert to C long"

namespace RandomKey

/-- The key of a seed: its low 32 bits, under a zero word. -/
def ofSeed (seed : Int) : Except SeedError RandomKey :=
  if -0x8000000000000000 ≤ seed ∧ seed < 0x8000000000000000 then .ok ⟨0, UInt32.ofInt seed⟩
  else .error ⟨seed⟩

/-! ## Threefry-2x32 -/

/-- Rotation of a word to the left by `r` bits, for `r` from 1 to 31. -/
def rotateLeft (w r : UInt32) : UInt32 := (w <<< r) ||| (w >>> (32 - r))

/-- One round: add the second word to the first, rotate the second and mix the
first into it. -/
def mix (p : UInt32 × UInt32) (r : UInt32) : UInt32 × UInt32 :=
  let s := p.1 + p.2
  (s, rotateLeft p.2 r ^^^ s)

/-- The rotation amounts of the even and of the odd groups of four rounds. -/
def rotations (group : Nat) : List UInt32 :=
  if group % 2 = 0 then [13, 15, 26, 6] else [17, 29, 16, 24]

/-- The parity word that extends a key of two words to three. -/
def parity : UInt32 := 0x1BD11BDA

/-- Word `j` of the key schedule, which repeats the two key words and their parity. -/
def schedule (k : RandomKey) (j : Nat) : UInt32 :=
  match j % 3 with
  | 0 => k.a
  | 1 => k.b
  | _ => k.a ^^^ k.b ^^^ parity

/-- Four rounds, then the next two words of the key schedule and the group number. -/
def mixGroup (k : RandomKey) (p : UInt32 × UInt32) (group : Nat) : UInt32 × UInt32 :=
  let q := (rotations group).foldl mix p
  (q.1 + k.schedule (group + 1), q.2 + k.schedule (group + 2) + UInt32.ofNat (group + 1))

/-- The hash of two counter words under a key: five groups of four rounds. -/
def threefry (k : RandomKey) (x y : UInt32) : UInt32 × UInt32 :=
  (List.range 5).foldl k.mixGroup (x + k.schedule 0, y + k.schedule 1)

def derive (k : RandomKey) (counter : UInt32) : RandomKey :=
  let p := k.threefry 0 counter
  ⟨p.1, p.2⟩

/-- The key after one draw. -/
def next (k : RandomKey) : RandomKey := k.derive 0

/-- The byte of one draw: the low byte of the subkey's second child, hashed. -/
def byte (k : RandomKey) : UInt8 :=
  let p := ((k.derive 1).derive 1).threefry 0 0
  (p.1 ^^^ p.2).toUInt8

end RandomKey
end Chip8
