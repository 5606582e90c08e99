import Chip8.Log.Session

/-!
# Levels and lines of a log

The names of the levels are in capitals, so that each names its own level. The
tables of upper case begin behind the capital letters of ASCII, and a text before
them is its own upper case.

Results:
* `Text.upper_eq_self`: the upper case of a text in capitals.
* `Level.ofText?_name`, `Level.rankOf_name`: the levels by their names.
* `Level.ofText?_eq_some_iff`: what a text names.
* `Logger.logAt_eq`, `Logger.inform_of_le`: the lines that messages make.
-/
namespace Chip8

namespace Text

/-- The tables of upper case begin behind the capital letters of ASCII. -/
theorem mapCase_upper {c : Char} (h : c.toNat < 0x61) :
    mapCase upperRuns upperExpansions c = [c] := by
  have hruns : ∀ r ∈ upperRuns.toList, 0x61 ≤ r.first := by decide +kernel
  have hexpansions : ∀ e ∈ upperExpansions.toList, 0x61 ≤ e.1 := by decide +kernel
  have hnoRun : upperRuns.find? (·.contains c.toNat) = none := by
    rw [Array.find?_eq_none]
    intro r hr
    have hfirst := hruns r (Array.mem_toList_iff.mpr hr)
    simp only [CaseRun.contains, Bool.and_eq_true, decide_eq_true_eq]
    omega
  have hnoExpansion : upperExpansions.find? (·.1 == c.toNat) = none := by
    rw [Array.find?_eq_none]
    intro e he
    have hkey := hexpansions e (Array.mem_toList_iff.mpr he)
    simp only [beq_iff_eq]
    omega
  simp only [mapCase, hnoRun, hnoExpansion]

theorem upper_eq_self {s : String} (h : ∀ c ∈ s.toList, c.toNat < 0x61) : upper s = s := by
  have hchars : ∀ cs : List Char, (∀ c ∈ cs, c.toNat < 0x61) →
      cs.flatMap (mapCase upperRuns upperExpansions) = cs := by
    intro cs hcs
    induction cs with
    | nil => rfl
    | cons c cs ih =>
      rw [List.flatMap_cons, mapCase_upper (hcs c List.mem_cons_self),
        ih fun d hd => hcs d (List.mem_cons_of_mem c hd)]
      rfl
  rw [upper, hchars s.toList h, String.ofList_toList]

end Text

namespace Log

theorem Level.ofText?_name (l : Level) : Level.ofText? l.name = some l := by
  have hcapitals : ∀ c ∈ l.name.toList, c.toNat < 0x61 := by
    cases l <;> simp [name]
  rw [ofText?, Text.upper_eq_self hcapitals, ofName?_name]

theorem Level.ofText_name (l : Level) : Level.ofText l.name = .ok l := by
  rw [ofText, ofText?_name]

theorem Level.rankOf_name (l : Level) : Level.rankOf l.name = l.rank := by
  rw [rankOf, ofText?_name]

theorem Level.name_inj {l k : Level} (h : l.name = k.name) : l = k :=
  Option.some.inj (by rw [← ofName?_name, h, ofName?_name])

/-- A text names the level whose name is its upper case. -/
theorem Level.ofText?_eq_some_iff {text : String} {l : Level} :
    Level.ofText? text = some l ↔ l.name = Text.upper text := by
  constructor
  · intro h
    simpa using List.find?_some h
  · intro h
    rw [ofText?, ← h, ofName?_name]

theorem Level.named_or_unnamed (text : String) :
    (∃ l : Level, l.name = Text.upper text) ∨ ∀ l : Level, l.name ≠ Text.upper text := by
  by_cases h : ∃ l : Level, l.name = Text.upper text
  · exact .inl h
  · exact .inr fun l hl => h ⟨l, hl⟩

theorem Level.ofText_eq_ok_iff {text : String} {l : Level} :
    Level.ofText text = .ok l ↔ l.name = Text.upper text := by
  rw [← ofText?_eq_some_iff, ofText]
  cases ofText? text <;> simp

theorem Level.ofText_eq_error_iff {text : String} {e : LevelError} :
    Level.ofText text = .error e ↔ e = ⟨text⟩ ∧ ∀ l : Level, l.name ≠ Text.upper text := by
  simp only [ne_eq, ← ofText?_eq_some_iff, ofText]
  cases ofText? text <;> simp [eq_comm]

namespace Logger

/-- A message of one of the five levels is passed on if its level ranks high enough. -/
theorem logAt_eq (l : Logger) (level : Level) (message : String) :
    l.logAt level message = if l.level.rank ≤ level.rank
      then [⟨l.stamped, l.coloured, level.name, l.name, message⟩] else [] := by
  simp only [logAt, Logger.log, passes, Level.rankOf_name, decide_eq_true_eq]

theorem inform_of_le {l : Logger} (h : l.level.rank ≤ Level.info.rank) (messages : List String) :
    l.inform messages =
      messages.map fun message => ⟨l.stamped, l.coloured, "INFO", l.name, message⟩ := by
  unfold inform
  induction messages with
  | nil => rfl
  | cons message messages ih =>
    rw [List.flatMap_cons, ih, logAt_eq, if_pos h]
    rfl

end Logger
end Log
end Chip8
