import Chip8.Machine

/-!
# What the host does to a machine

Between steps the host presses and releases keys, acknowledges the two flags
and lets time pass. `Machine.tick` is one period of the 60 Hz clock.
-/
namespace Chip8
namespace Machine

/-! ## The clock -/

/-- A timer counts down and stays at zero. -/
def countDown (timer : UInt8) : UInt8 := if timer = 0 then 0 else timer - 1

/-- `tick`, one clock period: both timers count down, and the sound flag is set when the
sound timer runs out. -/
def tick (m : Machine) : Machine :=
  { m with
    delayTimer := countDown m.delayTimer
    soundTimer := countDown m.soundTimer
    soundFlag := m.soundFlag || m.soundTimer == 1 }

theorem toNat_countDown (t : UInt8) : (countDown t).toNat = t.toNat - 1 := by
  unfold countDown
  split
  · next h => simp [h]
  · next h =>
    have h1 : t.toNat ≠ 0 := fun h0 => h (UInt8.toNat_inj.1 (by simpa using h0))
    rw [UInt8.toNat_sub_of_le _ _ (UInt8.le_iff_toNat_le.2 (by simp; omega))]
    simp

/-! ## Keys -/

def pressKey (m : Machine) (key : Int) : Except KeyError Machine :=
  match Key.ofInt key with
  | .error e => .error e
  | .ok k => .ok { m with keypad := m.keypad.set k true }

def releaseKey (m : Machine) (key : Int) : Except KeyError Machine :=
  match Key.ofInt key with
  | .error e => .error e
  | .ok k => .ok { m with keypad := m.keypad.set k false }

/-- `set_keypad`: the given keys are down and all others up. The first number that names
no key is an error. -/
def setKeypad (m : Machine) (keys : List Int) : Except KeyError Machine :=
  match Key.ofInts keys with
  | .error e => .error e
  | .ok ks => .ok { m with keypad := Keypad.ofKeys ks }

/-! ## Acknowledgements -/

def clearDrawFlag (m : Machine) : Machine := { m with drawFlag := false }

def clearSoundFlag (m : Machine) : Machine := { m with soundFlag := false }

end Machine
end Chip8
