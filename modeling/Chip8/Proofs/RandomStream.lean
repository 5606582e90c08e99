import Chip8.Proofs.FrameTable
import Chip8.Proofs.History

/-!
# The random stream

A key stands for a stream of bytes: each draw takes the byte of the key and puts
the next key in its place. Two things draw, the instruction CXNN when it
completes and the host when it asks for a byte. What a draw shows of its byte is
a `Draw`, the bits that are kept and what they are: VX after a CXNN, and the
whole byte for the host.

The key says how far a machine is in its stream, and nothing but the draws moves
it on: no other instruction, no step that faults, and no other call of the host.

Results:
* `draw_handle`: an event that draws shows the byte of the key and moves it on,
  and no other event touches it.
* `random_handleAll`, `value_of_draws`: after any events the key is as many
  places on as there were draws, and each draw has shown the byte of its place.
* `length_draws`: the draws are the CXNN completed and the bytes asked for.
* `random_actAll`: all of it, for whatever a host does.
-/
namespace Chip8

def RandomKey.after (k : RandomKey) : Nat → RandomKey
  | 0 => k
  | n + 1 => (k.after n).next

theorem RandomKey.after_succ (k : RandomKey) (n : Nat) : k.after (n + 1) = k.next.after n := by
  induction n with
  | zero => rfl
  | succ n ih => exact congrArg next ih

/-- What a draw shows of its byte: the bits that were kept, and what they are. -/
structure Draw where
  mask : UInt8
  value : UInt8
  deriving DecidableEq, Repr

namespace Machine

/-- The draw that an event makes, as it shows afterwards. -/
def draw? (m : Machine) (e : Event) : Option Draw :=
  match e with
  | .randomByte => some ⟨0xFF, m.nextRandomByte.1⟩
  | .step =>
    match m.completes? .step with
    | some (.random x nn) => some ⟨nn, (m.handle .step).reg x⟩
    | _ => none
  | _ => none

def draws (m : Machine) : List Event → List Draw
  | [] => []
  | e :: es => (m.draw? e).toList ++ (m.handle e).draws es

/-! ## Events -/

/-- The host gets the whole byte. -/
theorem draw_randomByte (m : Machine) :
    m.draw? .randomByte = some ⟨0xFF, m.random.byte &&& 0xFF⟩ := by
  have hfull : m.random.byte &&& 0xFF = m.random.byte := UInt8.and_neg_one
  rw [hfull]
  rfl

/-- A CXNN leaves the byte in VX, cut down to NN. -/
theorem perform_random {m t : Machine} {x : Fin 16} {nn : UInt8}
    (h : m.perform (.random x nn) = .ok t) :
    t.reg x = m.random.byte &&& nn ∧ t.random = m.random.next := by
  cases h
  exact ⟨reg_setReg_self _ x _, rfl⟩

/-- An event that draws shows the byte of the key and moves the key on. No other
event touches it. -/
theorem draw_handle (m : Machine) (e : Event) :
    match m.draw? e with
    | none => (m.handle e).random = m.random
    | some d => d.value = m.random.byte &&& d.mask ∧ (m.handle e).random = m.random.next := by
  rcases m.effect e with ⟨he, -⟩ | ⟨hm, hi⟩ | ⟨i, w, -, hi, -, hperform⟩
  · have hf := m.handle_frame e
    cases e with
    | step => exact absurd rfl he
    | randomByte =>
      rw [draw_randomByte]
      exact ⟨rfl, rfl⟩
    | _ => exact (congrArg Machine.random hf).symm
  · simp only [draw?, hi]
    rw [hm]
  · simp only [draw?, hi]
    cases i with
    | random x nn => exact perform_random (m := m.fetched w) hperform
    | _ => exact perform_keeps hperform (p := .random) rfl

theorem length_draw (m : Machine) (e : Event) :
    (m.draw? e).toList.length =
      (m.completes? e).toList.countP Instruction.isRandom + [e].count .randomByte := by
  rcases m.effect e with ⟨he, hi⟩ | ⟨-, hi⟩ | ⟨i, w, -, hi, -, -⟩
  · rw [hi]
    cases e with
    | step => exact absurd rfl he
    | _ => rfl
  · simp only [draw?, hi]
    rfl
  · simp only [draw?, hi]
    cases i <;> rfl

/-! ## Histories -/

/-- The key is moved on by the draws alone. -/
theorem random_handleAll (m : Machine) (es : List Event) :
    (m.handleAll es).random = m.random.after (m.draws es).length := by
  induction es generalizing m with
  | nil => rfl
  | cons e es ih =>
    have hd := m.draw_handle e
    have htail : (m.handleAll (e :: es)).random = ((m.handle e).handleAll es).random := rfl
    rw [htail, ih, draws, List.length_append]
    cases hdraw : m.draw? e with
    | none =>
      rw [hdraw] at hd
      rw [hd, Option.toList_none, List.length_nil, Nat.zero_add]
    | some d =>
      rw [hdraw] at hd
      rw [hd.2, Option.toList_some, List.length_singleton, Nat.add_comm, RandomKey.after_succ]

/-- The draw at place `j` shows the byte at place `j` of the stream. -/
theorem value_of_draws {m : Machine} {es : List Event} {j : Nat} {d : Draw}
    (h : (m.draws es)[j]? = some d) : d.value = (m.random.after j).byte &&& d.mask := by
  induction es generalizing m j with
  | nil => cases h
  | cons e es ih =>
    have hd := m.draw_handle e
    rw [draws] at h
    cases hdraw : m.draw? e with
    | none =>
      rw [hdraw] at h hd
      rw [← hd]
      exact ih h
    | some d' =>
      rw [hdraw] at h hd
      cases j with
      | zero =>
        cases h
        exact hd.1
      | succ j =>
        rw [RandomKey.after_succ, ← hd.2]
        exact ih h

theorem length_draws (m : Machine) (es : List Event) :
    (m.draws es).length = (m.log es).countP Instruction.isRandom + es.count .randomByte := by
  induction es generalizing m with
  | nil => rfl
  | cons e es ih =>
    have he := m.length_draw e
    rw [List.count_singleton] at he
    rw [draws, log, List.length_append, List.countP_append, List.count_cons, ih]
    omega

/-- **The random stream.** Whatever a host does with a machine, the key is moved
on by the draws alone, which are the CXNN completed and the bytes that the host
asks for. The draw at place `j` shows the byte at place `j` of the stream, so in
the bits that both keep, two machines with one key show the same bytes. -/
theorem random_actAll (m : Machine) (as : List Action) :
    let ds := m.draws (m.history as)
    (m.actAll as).random = m.random.after ds.length ∧
      ds.length =
        (m.completed as).countP Instruction.isRandom + as.count (.event .randomByte) ∧
      (∀ (j : Nat) (d : Draw), ds[j]? = some d → d.value = (m.random.after j).byte &&& d.mask) ∧
      ∀ (m' : Machine) as', m'.random = m.random → ∀ (j : Nat) (d d' : Draw), ds[j]? = some d →
        (m'.draws (m'.history as'))[j]? = some d' → d'.value &&& d.mask = d.value &&& d'.mask := by
  intro ds
  refine ⟨?_, ?_, fun j d => value_of_draws, ?_⟩
  · rw [actAll_eq]
    exact m.random_handleAll (m.history as)
  · rw [completed, ← m.count_history as (by decide) (by decide)]
    exact m.length_draws (m.history as)
  · intro m' as' hkey j d d' hd hd'
    have hvalue := value_of_draws hd
    have hvalue' := value_of_draws hd'
    rw [hkey] at hvalue'
    rw [hvalue, hvalue', UInt8.and_assoc, UInt8.and_assoc, UInt8.and_comm d.mask]

/-- A program of two CXNN. -/
def rolling : Machine :=
  { blank ⟨0, 7⟩ .clip with
    memory := overwrite (Vector.replicate 4096 0) 0x200 [0xC3, 0x0F, 0xC4, 0xF0] }

/-- The program draws twice. A host that asks a machine without a program for a
byte sees the same first byte. -/
theorem random_actAll_rolling :
    (rolling.actAll [.run 3, .event .tick]).random = rolling.random.after 2 ∧
      (∃ d, (rolling.draws (rolling.history [.run 3, .event .tick]))[1]? = some d ∧
        d.value = (rolling.random.after 1).byte &&& d.mask) ∧
      ∃ d d', (rolling.draws (rolling.history [.run 3, .event .tick]))[0]? = some d ∧
        ((blank ⟨0, 7⟩ .wrap).draws ((blank ⟨0, 7⟩ .wrap).history [.event .randomByte]))[0]? =
          some d' ∧
        d'.value &&& d.mask = d.value &&& d'.mask := by
  obtain ⟨hkey, hlength, hvalues, hpairs⟩ := random_actAll rolling [.run 3, .event .tick]
  have hcompleted : rolling.completed [.run 3, .event .tick] =
      [.random 3 0x0F, .random 4 0xF0] := by decide +kernel
  rw [hcompleted] at hlength
  have hlt (j : Nat) (hj : j < 2) :
      ∃ d, (rolling.draws (rolling.history [.run 3, .event .tick]))[j]? = some d := by
    have hin : j < (rolling.draws (rolling.history [.run 3, .event .tick])).length :=
      Nat.lt_of_lt_of_eq hj hlength.symm
    exact ⟨_, List.getElem?_eq_getElem hin⟩
  obtain ⟨d, hd⟩ := hlt 0 (by decide)
  obtain ⟨d₁, hd₁⟩ := hlt 1 (by decide)
  rw [hlength] at hkey
  exact ⟨hkey, ⟨d₁, hd₁, hvalues 1 d₁ hd₁⟩, d, _, hd, rfl,
    hpairs (blank ⟨0, 7⟩ .wrap) [.event .randomByte] rfl 0 d _ hd rfl⟩

end Machine
end Chip8
