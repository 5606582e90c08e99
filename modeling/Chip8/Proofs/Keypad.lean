import Chip8.Proofs.FrameTable
import Chip8.Proofs.History

/-!
# The keypad as a set of keys

The host replaces the keypad by a list of numbers, or presses and releases single keys.
Either way a key is down or up because of the last call that said anything about it
(`Event.decides?`): a press and a release about one key, a list about all of them. A
number that names no key says nothing, and neither does a list with such a number in it.

Results:
* `ofInts_eq_error_iff`, `mem_of_ofInts`: the number that is complained about, and the
  keys of a list that is not refused.
* `isDown_handle`, `isDown_handleAll`: one event, any events.
* `handleAll_of_isKeyCall`: the calls touch nothing but the keypad.
* `setKeypad_of_keys`, `handleAll_press_each`: the keypad as a whole, and key by key.
* `keys_as_set`: all of it.
-/
namespace Chip8

/-! ## Numbers of keys -/

namespace Key

def isStray (key : Int) : Bool := key < 0 || 15 < key

theorem ofInt_eq_ok_iff {key : Int} {k : Fin 16} : ofInt key = .ok k ↔ key = k.val := by
  unfold ofInt
  split
  · simp only [Except.ok.injEq, Fin.ext_iff]
    omega
  · have := k.isLt
    simp only [reduceCtorEq, false_iff]
    omega

theorem ofInt_of_stray {key : Int} (h : isStray key = true) : ofInt key = .error ⟨key⟩ := by
  simp only [isStray, Bool.or_eq_true, decide_eq_true_eq] at h
  exact dif_neg (by omega)

theorem ofInt_of_not_stray {key : Int} (h : isStray key = false) : ∃ k, ofInt key = .ok k := by
  simp only [isStray, Bool.or_eq_false_iff, decide_eq_false_iff_not] at h
  exact ⟨_, dif_pos (by omega)⟩

theorem ofInt_eq_error_iff {key : Int} {e : KeyError} :
    ofInt key = .error e ↔ isStray key = true ∧ e.key = key := by
  cases hkey : isStray key with
  | true =>
    rw [ofInt_of_stray hkey, Except.error.injEq]
    exact ⟨fun h => ⟨rfl, h ▸ rfl⟩, fun h => h.2 ▸ rfl⟩
  | false =>
    obtain ⟨k, hk⟩ := ofInt_of_not_stray hkey
    simp [hk]

def all : List Int := (List.finRange 16).map fun k => k.val

theorem mem_all (k : Fin 16) : (k.val : Int) ∈ all :=
  List.mem_map.mpr ⟨k, List.mem_finRange k, rfl⟩

/-- The number that is complained about is the first that names no key. -/
theorem ofInts_eq_error_iff {keys : List Int} {e : KeyError} :
    ofInts keys = .error e ↔ keys.find? isStray = some e.key := by
  induction keys with
  | nil => simp [ofInts]
  | cons key keys ih =>
    rw [ofInts, List.find?_cons]
    cases hkey : isStray key with
    | true =>
      rw [ofInt_of_stray hkey]
      simp only [Except.error.injEq, Option.some.injEq]
      exact ⟨fun h => h ▸ rfl, fun h => h ▸ rfl⟩
    | false =>
      obtain ⟨k, hk⟩ := ofInt_of_not_stray hkey
      rw [hk]
      simp only [← ih]
      cases ofInts keys <;> simp

theorem ofInts_of_keys {keys : List Int} (h : keys.any isStray = false) :
    ∃ ks, ofInts keys = .ok ks := by
  cases hkeys : ofInts keys with
  | ok ks => exact ⟨ks, rfl⟩
  | error e =>
    have hfirst := ofInts_eq_error_iff.mp hkeys
    rw [List.any_eq_false] at h
    exact absurd (List.find?_some hfirst) (h _ (List.mem_of_find?_eq_some hfirst))

theorem ofInts_of_stray {keys : List Int} (h : keys.any isStray = true) :
    ∃ e, ofInts keys = .error e := by
  rw [← List.isSome_find?] at h
  obtain ⟨key, hfirst⟩ := Option.isSome_iff_exists.mp h
  exact ⟨⟨key⟩, ofInts_eq_error_iff.mpr hfirst⟩

theorem mem_of_ofInts {keys : List Int} {ks : List (Fin 16)} (h : ofInts keys = .ok ks)
    (k : Fin 16) : k ∈ ks ↔ (k.val : Int) ∈ keys := by
  induction keys generalizing ks with
  | nil =>
    cases h
    simp
  | cons key keys ih =>
    rw [ofInts] at h
    split at h
    · next j js hj hjs =>
      cases h
      rw [List.mem_cons, List.mem_cons, ih hjs, ofInt_eq_ok_iff.mp hj, Fin.ext_iff, Int.natCast_inj]
    · cases h
    · cases h

end Key

/-! ## Sets of keys -/

namespace Keypad

theorem ext {k l : Keypad} (h : ∀ j, k.isDown j = l.isDown j) : k = l := by
  have hdown : k.down = l.down := Vector.ext fun j hj => h ⟨j, hj⟩
  cases k; cases l
  cases hdown; rfl

theorem isDown_released (j : Fin 16) : released.isDown j = false := Vector.getElem_replicate j.isLt

theorem isDown_set (k : Keypad) (key j : Fin 16) (down : Bool) :
    (k.set key down).isDown j = if j = key then down else k.isDown j := by
  simp only [isDown, set, Fin.getElem_fin, Vector.getElem_set, Fin.ext_iff, eq_comm]

theorem isDown_foldl_set (k : Keypad) (keys : List (Fin 16)) (j : Fin 16) :
    (keys.foldl (fun k key => k.set key true) k).isDown j = true ↔
      j ∈ keys ∨ k.isDown j = true := by
  induction keys generalizing k with
  | nil => simp
  | cons key keys ih =>
    rw [List.foldl_cons, ih, isDown_set, List.mem_cons]
    by_cases hj : j = key
    · simp [hj]
    · simp [hj]

theorem isDown_ofKeys (keys : List (Fin 16)) (j : Fin 16) :
    (ofKeys keys).isDown j = true ↔ j ∈ keys := by
  rw [ofKeys, isDown_foldl_set, isDown_released]
  simp

/-- Any set of keys can be the keys that are down. -/
theorem exists_isDown_iff (keys : List Int) :
    ∃ k : Keypad, ∀ j : Fin 16, k.isDown j = true ↔ (j.val : Int) ∈ keys :=
  ⟨⟨Vector.ofFn fun j => decide ((j.val : Int) ∈ keys)⟩, fun j => by simp [isDown]⟩

end Keypad

/-! ## What a call says about a key -/

/-- The calls that set the keypad or a part of it. -/
def Event.isKeyCall : Event → Bool
  | .press _ | .release _ | .setKeypad _ => true
  | _ => false

/-- What an event says about a key, if it says anything: a press that the key is down, a
release that it is up, and a whole keypad whether it is among the keys. -/
def Event.decides? (j : Fin 16) : Event → Option Bool
  | .press key => if key = j.val then some true else none
  | .release key => if key = j.val then some false else none
  | .setKeypad keys => if keys.any Key.isStray then none else some (keys.contains (j.val : Int))
  | _ => none

namespace Machine

variable {m : Machine}

theorem isDown_handle (m : Machine) (e : Event) (j : Fin 16) :
    (m.handle e).keypad.isDown j = (e.decides? j).getD (m.keypad.isDown j) := by
  cases e with
  | press key | release key =>
    simp only [handle, pressKey, releaseKey, Event.decides?]
    cases hkey : Key.ofInt key with
    | error e =>
      have hne : key ≠ j.val := fun h => by
        rw [Key.ofInt_eq_ok_iff.mpr h] at hkey
        cases hkey
      rw [if_neg hne]
      rfl
    | ok k =>
      obtain rfl := Key.ofInt_eq_ok_iff.mp hkey
      simp only [unlessRefused, Keypad.isDown_set, Int.natCast_inj, Fin.ext_iff, eq_comm]
      split <;> rfl
  | setKeypad keys =>
    simp only [handle, Machine.setKeypad, Event.decides?]
    cases hkeys : keys.any Key.isStray with
    | true =>
      obtain ⟨e, he⟩ := Key.ofInts_of_stray hkeys
      rw [he]
      rfl
    | false =>
      obtain ⟨ks, hks⟩ := Key.ofInts_of_keys hkeys
      rw [hks, Bool.eq_iff_iff]
      simp only [unlessRefused, Keypad.isDown_ofKeys, Key.mem_of_ofInts hks]
      simp
  | step =>
    have hkept : (m.handle .step).keypad = m.keypad := by
      cases m.effect .step with
      | host he => exact absurd rfl he
      | faulted hm => rw [hm]
      | completed i w hs hi hstep hperform => exact perform_keeps hperform (p := .keypad) rfl
    rw [hkept]
    rfl
  | tick | clearDrawFlag | clearSoundFlag | randomByte => rfl
  | load image =>
    rw [← m.handle_frame (.load image)]
    rfl

/-- After any events, a key is what the last call said that said anything about it, and
without such a call what it was. -/
theorem isDown_handleAll (m : Machine) (es : List Event) (j : Fin 16) :
    (m.handleAll es).keypad.isDown j =
      ((es.filterMap (·.decides? j)).getLast?).getD (m.keypad.isDown j) := by
  induction es generalizing m with
  | nil => rfl
  | cons e es ih =>
    have hrest : (m.handleAll (e :: es)).keypad.isDown j = _ := ih (m.handle e)
    rw [hrest, isDown_handle]
    cases he : e.decides? j with
    | none => rw [List.filterMap_cons_none he]; rfl
    | some down =>
      rw [List.filterMap_cons_some he, List.getLast?_cons]
      rfl

/-- The calls touch nothing but the keypad. -/
theorem handleAll_of_isKeyCall (m : Machine) {es : List Event}
    (hes : ∀ e ∈ es, e.isKeyCall = true) : ∃ keypad, m.handleAll es = { m with keypad } := by
  induction es generalizing m with
  | nil => exact ⟨m.keypad, rfl⟩
  | cons e es ih =>
    obtain ⟨keypad, hrest⟩ := ih (m.handle e) fun d hd => hes d (List.mem_cons_of_mem e hd)
    have hframe := m.handle_frame e
    have he := hes e List.mem_cons_self
    refine ⟨keypad, hrest.trans ?_⟩
    cases e with
    | press key | release key | setKeypad keys =>
      rw [← hframe]
      rfl
    | _ => cases he

/-! ## The keypad as a whole -/

theorem setKeypad_eq_error_iff {keys : List Int} {e : KeyError} :
    m.setKeypad keys = .error e ↔ keys.find? Key.isStray = some e.key := by
  rw [← Key.ofInts_eq_error_iff, Machine.setKeypad]
  cases Key.ofInts keys <;> simp

theorem handle_setKeypad_of_stray {keys : List Int} (h : keys.any Key.isStray = true) :
    m.handle (.setKeypad keys) = m := by
  obtain ⟨e, he⟩ := Key.ofInts_of_stray h
  simp only [handle, Machine.setKeypad, he, unlessRefused]

/-- A list of keys replaces the keypad, whatever it was, by the one with those keys down. -/
theorem setKeypad_of_keys {keys : List Int} (h : keys.any Key.isStray = false) {keypad : Keypad}
    (hdown : ∀ j : Fin 16, keypad.isDown j = true ↔ (j.val : Int) ∈ keys) :
    m.setKeypad keys = .ok { m with keypad } := by
  obtain ⟨ks, hks⟩ := Key.ofInts_of_keys h
  have hkeypad : Keypad.ofKeys ks = keypad := Keypad.ext fun j => by
    rw [Bool.eq_iff_iff, Keypad.isDown_ofKeys, Key.mem_of_ofInts hks, hdown]
  rw [Machine.setKeypad, hks, ← hkeypad]

/-! ## Key by key -/

/-- Calls that all say the same about the keys they name leave those keys like that. -/
theorem isDown_handleAll_map {call : Int → Event} {down : Bool}
    (hcall : ∀ key (j : Fin 16),
      (call key).decides? j = if key = j.val then some down else none)
    (m : Machine) (keys : List Int) (j : Fin 16) :
    (m.handleAll (keys.map call)).keypad.isDown j =
      if (j.val : Int) ∈ keys then down else m.keypad.isDown j := by
  induction keys generalizing m with
  | nil => rfl
  | cons key keys ih =>
    have hrest : (m.handleAll ((key :: keys).map call)).keypad.isDown j = _ :=
      ih (m.handle (call key))
    rw [hrest, isDown_handle, hcall]
    by_cases hkey : key = j.val
    · simp [hkey]
    · simp [hkey, Ne.symm hkey]

theorem isDown_press_each (m : Machine) (keys : List Int) (j : Fin 16) :
    (m.handleAll (Key.all.map .release ++ keys.map .press)).keypad.isDown j =
      decide ((j.val : Int) ∈ keys) := by
  rw [handleAll_append, isDown_handleAll_map (fun _ _ => rfl),
    isDown_handleAll_map (fun _ _ => rfl), if_pos (Key.mem_all j)]
  split <;> simp [*]

/-- Releasing all keys and pressing some of them, one after the other, leaves those down. -/
theorem handleAll_press_each (m : Machine) {keys : List Int} {keypad : Keypad}
    (hdown : ∀ j : Fin 16, keypad.isDown j = true ↔ (j.val : Int) ∈ keys) :
    m.handleAll (Key.all.map .release ++ keys.map .press) = { m with keypad } := by
  have hcalls : ∀ e ∈ Key.all.map Event.release ++ keys.map Event.press,
      e.isKeyCall = true := by
    intro e he
    rw [List.mem_append, List.mem_map, List.mem_map] at he
    obtain ⟨key, -, rfl⟩ | ⟨key, -, rfl⟩ := he <;> rfl
  -- The calls leave some keypad, and it agrees with the given one on every key.
  obtain ⟨keypad', heach⟩ := m.handleAll_of_isKeyCall hcalls
  have hsame : keypad' = keypad := Keypad.ext fun j => by
    have hj := m.isDown_press_each keys j
    rw [heach] at hj
    rw [hj, Bool.eq_iff_iff, hdown, decide_eq_true_eq]
  rw [heach, hsame]

theorem pressKey_eq_error_iff {key : Int} {e : KeyError} :
    m.pressKey key = .error e ↔ Key.isStray key = true ∧ e.key = key := by
  rw [← Key.ofInt_eq_error_iff, pressKey]
  cases Key.ofInt key <;> simp

theorem releaseKey_eq_error_iff {key : Int} {e : KeyError} :
    m.releaseKey key = .error e ↔ Key.isStray key = true ∧ e.key = key := by
  rw [← Key.ofInt_eq_error_iff, releaseKey]
  cases Key.ofInt key <;> simp

/-- **The keypad as a set.** A list of numbers is refused exactly if one of them names no
key, with the first such number, and then nothing changes. Any other list puts down
exactly the keys it names: the same whatever the keypad was, in any order and however
often a key is named, and the same as releasing all keys and pressing those one by one.
A single press or release is refused exactly for a number that names no key, and changes
nothing then. After any events a key is what the last call said that said anything about
it, or as before if there was none, and the calls touch nothing but the keypad. -/
theorem keys_as_set (m : Machine) :
    (∀ keys : List Int,
      (∀ e, m.setKeypad keys = .error e ↔ keys.find? Key.isStray = some e.key) ∧
      (keys.any Key.isStray = true → m.handle (.setKeypad keys) = m) ∧
      (keys.any Key.isStray = false →
        ∃ keypad : Keypad, m.setKeypad keys = .ok { m with keypad } ∧
          (∀ j : Fin 16, keypad.isDown j = true ↔ (j.val : Int) ∈ keys) ∧
          m.handleAll (Key.all.map .release ++ keys.map .press) = { m with keypad } ∧
          ∀ before others, (∀ key, key ∈ others ↔ key ∈ keys) →
            ({ m with keypad := before } : Machine).setKeypad others = .ok { m with keypad })) ∧
    (∀ key,
      (∀ e, m.pressKey key = .error e ↔ Key.isStray key = true ∧ e.key = key) ∧
      (∀ e, m.releaseKey key = .error e ↔ Key.isStray key = true ∧ e.key = key) ∧
      (Key.isStray key = true → m.handle (.press key) = m ∧ m.handle (.release key) = m)) ∧
    ∀ es : List Event,
      (∀ j : Fin 16, (m.handleAll es).keypad.isDown j =
        ((es.filterMap (·.decides? j)).getLast?).getD (m.keypad.isDown j)) ∧
      ((∀ e ∈ es, e.isKeyCall = true) → ∃ keypad, m.handleAll es = { m with keypad }) := by
  refine ⟨fun keys => ⟨fun e => setKeypad_eq_error_iff, handle_setKeypad_of_stray, ?_⟩, fun key =>
    ⟨fun e => pressKey_eq_error_iff, fun e => releaseKey_eq_error_iff, ?_⟩,
    fun es => ⟨m.isDown_handleAll es, m.handleAll_of_isKeyCall⟩⟩
  · intro hkeys
    obtain ⟨keypad, hdown⟩ := Keypad.exists_isDown_iff keys
    refine ⟨keypad, setKeypad_of_keys hkeys hdown, hdown, m.handleAll_press_each hdown, ?_⟩
    intro before others hothers
    have hkeys' : others.any Key.isStray = false := by
      rw [List.any_eq_false] at hkeys ⊢
      exact fun key hkey => hkeys key ((hothers key).mp hkey)
    exact setKeypad_of_keys hkeys' fun j => (hdown j).trans (hothers j).symm
  · intro hkey
    have hrefused := Key.ofInt_of_stray hkey
    exact ⟨by simp only [handle, pressKey, hrefused, unlessRefused],
      by simp only [handle, releaseKey, hrefused, unlessRefused]⟩

def held : Machine :=
  { blank ⟨0, 0⟩ .clip with
    keypad := ⟨Vector.ofFn fun key => key.val == 3 || key.val == 11⟩ }

/-- Of the numbers 4, 16 and -1 the second is refused, and the keypad stays. The keys 11
and 4 replace the keypad, in either order. Key 3 is down after a press that comes behind
a release, and key 11 is up after a list without it. -/
theorem keys_as_set_held :
    (held.setKeypad [4, 16, -1] = .error ⟨16⟩ ∧ held.handle (.setKeypad [4, 16, -1]) = held) ∧
    (∃ t, held.setKeypad [11, 4, 11] = .ok t ∧ held.setKeypad [4, 11] = .ok t ∧
      held.handleAll (Key.all.map .release ++ [.press 11, .press 4, .press 11]) = t) ∧
    held.handle (.release 16) = held ∧
    let t := held.handleAll [.release 3, .setKeypad [4], .step, .press 3, .setKeypad [7, -1]]
    t.keypad.isDown 3 = true ∧ t.keypad.isDown 4 = true ∧ t.keypad.isDown 11 = false := by
  obtain ⟨hlists, hsingle, hevents⟩ := keys_as_set held
  obtain ⟨herror, hkept, -⟩ := hlists [4, 16, -1]
  obtain ⟨keypad, hset, -, heach, horder⟩ := (hlists [11, 4, 11]).2.2 (by decide)
  refine ⟨⟨(herror ⟨16⟩).mpr (by decide), hkept (by decide)⟩, ⟨_, hset, ?_, heach⟩,
    ((hsingle 16).2.2 (by decide)).2, ?_⟩
  · exact horder held.keypad [4, 11] fun key => by simp; omega
  · obtain ⟨hdown, -⟩ := hevents
      [.release 3, .setKeypad [4], .step, .press 3, .setKeypad [7, -1]]
    exact ⟨(hdown 3).trans (by decide), (hdown 4).trans (by decide), (hdown 11).trans (by decide)⟩

end Machine
end Chip8
