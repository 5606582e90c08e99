/-!
# The keypad

Sixteen keys, each down or up. Keys come from the host as integers; one that is
not in 0 to 15 is refused before anything changes.
-/
namespace Chip8

/-- The keys that are down. -/
structure Keypad where
  down : Vector Bool 16
  deriving DecidableEq, Repr

structure KeyError where
  key : Int
  deriving DecidableEq, Repr

def KeyError.message (e : KeyError) : String :=
  s!"Key index must be in [0x0, 0xF], got {e.key}"

/-- `_check_key`: the key with the given number. -/
def Key.ofInt (key : Int) : Except KeyError (Fin 16) :=
  if h : 0 ≤ key ∧ key < 16 then .ok ⟨key.toNat, by omega⟩ else .error ⟨key⟩

/-- The keys with the given numbers; the first number without a key is an error. -/
def Key.ofInts : List Int → Except KeyError (List (Fin 16))
  | [] => .ok []
  | key :: rest =>
    match ofInt key, ofInts rest with
    | .ok k, .ok ks => .ok (k :: ks)
    | .error e, _ => .error e
    | _, .error e => .error e

namespace Keypad

def released : Keypad := ⟨Vector.replicate 16 false⟩

def isDown (k : Keypad) (key : Fin 16) : Bool := k.down[key]

def set (k : Keypad) (key : Fin 16) (down : Bool) : Keypad := ⟨k.down.set key down⟩

def ofKeys (keys : List (Fin 16)) : Keypad := keys.foldl (fun k key => k.set key true) released

/-- The keys that are down, in ascending order. -/
def pressed (k : Keypad) : List (Fin 16) := (List.finRange 16).filter k.isDown

def highest? (k : Keypad) : Option (Fin 16) := k.pressed.getLast?

theorem highest?_eq_none_iff (k : Keypad) : k.highest? = none ↔ ∀ key, k.isDown key = false := by
  rw [highest?, List.getLast?_eq_none_iff, pressed, List.filter_eq_nil_iff]
  simp only [List.mem_finRange, true_implies, Bool.not_eq_true]

end Keypad
end Chip8
