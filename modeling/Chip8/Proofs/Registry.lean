import Mathlib.Data.List.Induction
import Chip8.Log.Registry
import Chip8.Proofs.Log

/-!
# What happened to the shared loggers

Loggers are shared by name. A `Request` asks for one, sets the level of one or of
all of them, or logs with one; those that name a logger make it if it is not
there. The level of a logger depends on the settings alone: it is the one of the
last setting that had a level and concerned it, whether the logger was there by
then or not, because the default level follows the settings of all loggers.

Results:
* `logger_setAllTo`: the loggers after all of them were set.
* `levelOf_handle_of_sets`, `levelOf_handle_of_not_sets`: what one request does to
  the level of a logger, made or to come.
* `settled_handleAll`: what any requests do to it.
* `Settled.unique`: a history leaves a name at one level.
* `names_handle`: which loggers are there, and that no name is there twice.
* `levels_settled`: all of it, with what a request prints or reports.
-/
namespace Chip8
namespace Log

inductive Request
  | get (name : String)
  | setAll (level : String)
  | setOne (name level : String)
  | log (name level message : String)
  deriving DecidableEq, Repr

namespace Request

/-- The logger that a request asks for. -/
def name? : Request → Option String
  | .get name | .setOne name _ | .log name _ _ => some name
  | .setAll _ => none

/-- The text of the level that a request sets. -/
def setting? : Request → Option String
  | .setAll text | .setOne _ text => some text
  | .get _ | .log .. => none

/-- The request sets the logger of this name to the level. -/
def Sets (q : Request) (name : String) (level : Level) : Prop :=
  ∃ text, (q = .setAll text ∨ q = .setOne name text) ∧ level.name = Text.upper text

end Request

/-- The level at which requests leave the logger of a name: that of the last one
that sets it, and WARNING if there is none. -/
inductive Settled (name : String) : List Request → Level → Prop
  | unset {qs : List Request} (h : ∀ q ∈ qs, ∀ l, ¬ q.Sets name l) : Settled name qs .warning
  | set {before after : List Request} {q : Request} {l : Level} (hq : q.Sets name l)
      (h : ∀ p ∈ after, ∀ k, ¬ p.Sets name k) : Settled name (before ++ q :: after) l

namespace Registry

def handle (r : Registry) : Request → Registry
  | .get name | .log name _ _ => r.register name
  | .setAll level =>
    match r.setAll level with
    | .ok r' => r'
    | .error _ => r
  | .setOne name level => (r.setOne name level).1

/-- What a request prints, or why it fails. -/
def answer (r : Registry) (coloured : Bool) : Request → Except LevelError (List Line)
  | .get _ => .ok []
  | .setAll level => (r.setAll level).map fun _ => []
  | .setOne name level => (r.setOne name level).2.map fun _ => []
  | .log name level message => .ok (((r.register name).logger name coloured).log level message)

def handleAll (r : Registry) (qs : List Request) : Registry := qs.foldl handle r

theorem handleAll_append (r : Registry) (qs ps : List Request) :
    r.handleAll (qs ++ ps) = (r.handleAll qs).handleAll ps := List.foldl_append

/-! ## Levels by name -/

theorem lookup_mapLevels (f : String → Level → Level) (entries : List (String × Level))
    (name : String) :
    (entries.map fun entry => (entry.1, f entry.1 entry.2)).lookup name =
      (entries.lookup name).map (f name) := by
  induction entries with
  | nil => rfl
  | cons entry entries ih =>
    obtain ⟨n, l⟩ := entry
    rw [List.map_cons, List.lookup_cons, List.lookup_cons]
    by_cases h : name = n
    · subst h
      simp
    · simp only [beq_false_of_ne h]
      exact ih

theorem level?_register (r : Registry) (n name : String) :
    (r.register n).level? name =
      (r.level? name).or (if name = n then some r.defaultLevel else none) := by
  unfold register
  split
  · rename_i l hl
    split
    · rename_i heq
      rw [heq, hl, Option.some_or]
    · rw [Option.or_none]
  · simp only [level?, List.lookup_append, List.lookup_cons, List.lookup_nil]
    by_cases h : name = n
    · simp [h]
    · rw [beq_false_of_ne h, if_neg h]

theorem defaultLevel_register (r : Registry) (n : String) :
    (r.register n).defaultLevel = r.defaultLevel := by
  unfold register
  split <;> rfl

theorem levelOf_register (r : Registry) (n name : String) :
    (r.register n).levelOf name = r.levelOf name := by
  rw [levelOf, levelOf, level?_register, defaultLevel_register]
  cases r.level? name with
  | some l => rfl
  | none => split <;> rfl

/-! ## Settings -/

theorem levelOf_setAllTo (r : Registry) (l : Level) (name : String) :
    (r.setAllTo l).levelOf name = l := by
  rw [setAllTo, levelOf, level?, lookup_mapLevels fun _ _ => l]
  cases r.levels.lookup name <;> rfl

/-- Once all loggers were set to a level, every logger is found at it. -/
theorem logger_setAllTo (r : Registry) (l : Level) (name : String) (coloured : Bool) :
    (r.setAllTo l).logger name coloured = ⟨name, l, coloured, true⟩ := by
  rw [logger, levelOf_setAllTo]

theorem handle_setAll {text : String} {l : Level} (h : l.name = Text.upper text) (r : Registry) :
    r.handle (.setAll text) = r.setAllTo l := by
  simp only [handle, setAll, Level.ofText_eq_ok_iff.mpr h]

theorem handle_setOne {text : String} {l : Level} (h : l.name = Text.upper text) (r : Registry)
    (name : String) :
    r.handle (.setOne name text) =
      { r.register name with
        levels := (r.register name).levels.map fun entry =>
          (entry.1, if entry.1 = name then l else entry.2) } := by
  simp only [handle, setOne, Level.ofText_eq_ok_iff.mpr h]
  congr 2
  funext entry
  split <;> rfl

/-- A request whose level has no name makes the logger that it asks for and does
nothing else. -/
theorem handle_of_unnamed {text : String} (h : ∀ l : Level, l.name ≠ Text.upper text)
    (r : Registry) :
    r.handle (.setAll text) = r ∧ ∀ name, r.handle (.setOne name text) = r.register name := by
  have herror : Level.ofText text = .error ⟨text⟩ := Level.ofText_eq_error_iff.mpr ⟨rfl, h⟩
  refine ⟨?_, fun name => ?_⟩
  · rw [handle, setAll, herror]
  · rw [handle, setOne, herror]

/-- A setting sets the loggers that it concerns, made or to come. -/
theorem levelOf_handle_of_sets {q : Request} {name : String} {l : Level} (h : q.Sets name l)
    (r : Registry) : (r.handle q).levelOf name = l := by
  obtain ⟨text, rfl | rfl, htext⟩ := h
  · rw [handle_setAll htext, levelOf_setAllTo]
  · rw [handle_setOne htext, levelOf, level?,
      lookup_mapLevels fun n k => if n = name then l else k]
    have hmade : ∃ k, (r.register name).levels.lookup name = some k := by
      have := r.level?_register name name
      rw [if_pos rfl] at this
      cases hl : r.level? name with
      | some k => exact ⟨k, by rw [← level?, this, hl]; rfl⟩
      | none => exact ⟨_, by rw [← level?, this, hl]; rfl⟩
    obtain ⟨k, hk⟩ := hmade
    simp [hk]

/-- Every other request leaves them where they are. -/
theorem levelOf_handle_of_not_sets {q : Request} {name : String} (h : ∀ l, ¬ q.Sets name l)
    (r : Registry) : (r.handle q).levelOf name = r.levelOf name := by
  cases q with
  | get n => exact r.levelOf_register n name
  | log n _ _ => exact r.levelOf_register n name
  | setAll text =>
    have hno : ∀ l : Level, l.name ≠ Text.upper text := fun l hl => h l ⟨text, .inl rfl, hl⟩
    rw [(handle_of_unnamed hno r).1]
  | setOne n text =>
    rcases Level.named_or_unnamed text with ⟨l, hl⟩ | hno
    · -- it sets another logger
      have hn : name ≠ n := fun hn => h l ⟨text, .inr (by rw [hn]), hl⟩
      rw [handle_setOne hl, ← r.levelOf_register n name, levelOf, levelOf, level?,
        lookup_mapLevels fun k v => if k = n then l else v]
      simp [hn, level?]
    · rw [(handle_of_unnamed hno r).2]
      exact r.levelOf_register n name

/-! ## Histories -/

theorem settled_append {name : String} {qs : List Request} {q : Request} {l : Level}
    (hq : ∀ k, ¬ q.Sets name k) (h : Settled name qs l) : Settled name (qs ++ [q]) l := by
  cases h with
  | unset h =>
    refine .unset fun p hp => ?_
    rcases List.mem_append.mp hp with hp | hp
    · exact h p hp
    · rw [List.mem_singleton.mp hp]
      exact hq
  | @set before after p l hp h =>
    rw [List.append_assoc, List.cons_append]
    refine .set hp fun p' hp' => ?_
    rcases List.mem_append.mp hp' with hp' | hp'
    · exact h p' hp'
    · rw [List.mem_singleton.mp hp']
      exact hq

/-- Any requests leave every logger, made or to come, at the level of the last
setting that concerns it. -/
theorem settled_handleAll (qs : List Request) (name : String) :
    Settled name qs ((initial.handleAll qs).levelOf name) := by
  -- by induction from the last request back
  induction qs using List.reverseRecOn with
  | nil =>
    have hstart : initial.levelOf name = .warning := by
      rw [initial, levelOf_register]
      rfl
    rw [handleAll, List.foldl_nil, hstart]
    exact .unset nofun
  | append_singleton qs q ih =>
    rw [handleAll_append]
    by_cases hq : ∃ l, q.Sets name l
    · obtain ⟨l, hl⟩ := hq
      have hlevel : ((initial.handleAll qs).handleAll [q]).levelOf name = l :=
        levelOf_handle_of_sets hl _
      rw [hlevel]
      exact .set hl nofun
    · have hno : ∀ l, ¬ q.Sets name l := fun l hl => hq ⟨l, hl⟩
      have hlevel : ((initial.handleAll qs).handleAll [q]).levelOf name =
          (initial.handleAll qs).levelOf name := levelOf_handle_of_not_sets hno _
      rw [hlevel]
      exact settled_append hno ih

/-! ## Which loggers there are -/

/-- A request makes the logger that it asks for and removes none. -/
theorem isSome_level?_handle (r : Registry) (q : Request) (name : String) :
    ((r.handle q).level? name).isSome ↔ (r.level? name).isSome ∨ q.name? = some name := by
  have hregister (n : String) :
      ((r.register n).level? name).isSome ↔ (r.level? name).isSome ∨ some n = some name := by
    rw [level?_register]
    by_cases h : name = n
    · simp [h]
    · simp [h, Ne.symm h]
  cases q with
  | get n => exact hregister n
  | log n _ _ => exact hregister n
  | setAll text =>
    rcases Level.named_or_unnamed text with ⟨l, hl⟩ | hno
    · rw [handle_setAll hl, setAllTo, level?, lookup_mapLevels fun _ _ => l]
      simp [Request.name?, level?]
    · rw [(handle_of_unnamed hno r).1]
      simp [Request.name?]
  | setOne n text =>
    rcases Level.named_or_unnamed text with ⟨l, hl⟩ | hno
    · rw [handle_setOne hl, level?, lookup_mapLevels fun k v => if k = n then l else v,
        Option.isSome_map]
      exact hregister n
    · rw [(handle_of_unnamed hno r).2]
      exact hregister n

theorem isSome_level?_handleAll (qs : List Request) (name : String) :
    ((initial.handleAll qs).level? name).isSome ↔
      name = loaderName ∨ ∃ q ∈ qs, q.name? = some name := by
  induction qs using List.reverseRecOn with
  | nil =>
    rw [handleAll, List.foldl_nil, initial, level?_register]
    by_cases h : name = loaderName <;> simp [h, level?, empty]
  | append_singleton qs q ih =>
    have hlast := (initial.handleAll qs).isSome_level?_handle q name
    rw [handleAll_append]
    simp only [List.mem_append, List.mem_singleton, or_and_right, exists_or, exists_eq_left]
    rw [← or_assoc, ← ih]
    exact hlast

def names (r : Registry) : List String := r.levels.map Prod.fst

theorem names_register (r : Registry) (n : String) :
    (r.register n).names = if n ∈ r.names then r.names else r.names ++ [n] := by
  have hmem : n ∈ r.names ↔ r.level? n ≠ none := by
    rw [level?, ne_eq, List.lookup_eq_none_iff, names, List.mem_map]
    simp
  unfold register
  cases hl : r.level? n with
  | some l => rw [if_pos (hmem.mpr (by simp [hl]))]
  | none =>
    rw [if_neg (fun h => hmem.mp h hl), names, names, List.map_append]
    rfl

/-- A request leaves the loggers there, and adds at most the one that it asks for. -/
theorem names_handle (r : Registry) (q : Request) :
    (r.handle q).names = r.names ∨ ∃ n, (r.handle q).names = (r.register n).names := by
  cases q with
  | get n => exact .inr ⟨n, rfl⟩
  | log n _ _ => exact .inr ⟨n, rfl⟩
  | setAll text =>
    refine .inl ?_
    rcases Level.named_or_unnamed text with ⟨l, hl⟩ | hno
    · simp [handle_setAll hl, setAllTo, names]
    · rw [(handle_of_unnamed hno r).1]
  | setOne n text =>
    refine .inr ⟨n, ?_⟩
    rcases Level.named_or_unnamed text with ⟨l, hl⟩ | hno
    · simp [handle_setOne hl, names]
    · rw [(handle_of_unnamed hno r).2]

theorem nodup_names_handle {r : Registry} (h : r.names.Nodup) (q : Request) :
    (r.handle q).names.Nodup := by
  rcases r.names_handle q with hq | ⟨n, hq⟩
  · rw [hq]
    exact h
  · rw [hq, names_register]
    split
    · exact h
    · rename_i hn
      exact List.nodup_append.mpr ⟨h, by simp, by
        rintro a ha b hb rfl
        exact hn (List.mem_singleton.mp hb ▸ ha)⟩

theorem nodup_names_handleAll (qs : List Request) : (initial.handleAll qs).names.Nodup := by
  induction qs using List.reverseRecOn with
  | nil =>
    rw [handleAll, List.foldl_nil, initial, names_register]
    simp [empty, names]
  | append_singleton qs q ih =>
    rw [handleAll_append]
    exact nodup_names_handle ih q

/-! ## Answers -/

/-- A request fails exactly if it is a setting whose level has no name. -/
theorem answer_eq_error_iff (r : Registry) (coloured : Bool) (q : Request) (e : LevelError) :
    r.answer coloured q = .error e ↔
      ∃ text, q.setting? = some text ∧ (∀ l : Level, l.name ≠ Text.upper text) ∧ e = ⟨text⟩ := by
  have hfails (text : String) : Level.ofText text = .error e ↔
      ∃ t, some text = some t ∧ (∀ l : Level, l.name ≠ Text.upper t) ∧ e = ⟨t⟩ := by
    rw [Level.ofText_eq_error_iff]
    simp [and_comm]
  cases q with
  | get n => simp [answer, Request.setting?]
  | log n _ _ => simp [answer, Request.setting?]
  | setAll text =>
    rw [Request.setting?, ← hfails, answer, setAll]
    cases Level.ofText text <;> simp [Except.map]
  | setOne n text =>
    rw [Request.setting?, ← hfails, answer, setOne]
    cases Level.ofText text <;> simp [Except.map]

/-- A request that fails changes no level, not even that of the loggers to come. -/
theorem handle_of_error {r : Registry} {coloured : Bool} {q : Request} {e : LevelError}
    (h : r.answer coloured q = .error e) :
    (r.handle q).defaultLevel = r.defaultLevel ∧
      ∀ name l, r.level? name = some l → (r.handle q).level? name = some l := by
  obtain ⟨text, hq, hno, -⟩ := (answer_eq_error_iff r coloured q e).mp h
  obtain ⟨hall, hone⟩ := handle_of_unnamed hno r
  cases q with
  | get n => cases hq
  | log n _ _ => cases hq
  | setAll t =>
    cases hq
    rw [hall]
    exact ⟨rfl, fun _ _ hl => hl⟩
  | setOne n t =>
    cases hq
    rw [hone, defaultLevel_register]
    exact ⟨rfl, fun name l hl => by rw [level?_register, hl, Option.some_or]⟩

end Registry

/-! ## What a history settles -/

theorem Request.Sets.unique {q : Request} {name : String} {l k : Level} (hl : q.Sets name l)
    (hk : q.Sets name k) : l = k := by
  obtain ⟨text, hq, hname⟩ := hl
  obtain ⟨text', hq', hname'⟩ := hk
  have htext : text = text' := by
    rcases hq with rfl | rfl <;> rcases hq' with h | h <;> cases h <;> rfl
  exact Level.name_inj (by rw [hname, hname', htext])

/-- A history leaves a name at one level. -/
theorem Settled.unique {name : String} {qs : List Request} {l k : Level}
    (hl : Settled name qs l) (hk : Settled name qs k) : l = k := by
  cases hl with
  | unset h =>
    cases hk with
    | unset => rfl
    | set hq => exact absurd hq (h _ (by simp) _)
  | @set before after q l hq h =>
    generalize hqs : before ++ q :: after = qs at hk
    cases hk with
    | unset h' => exact absurd hq (h' _ (by simp [← hqs]) _)
    | @set before' after' p k hp h' =>
      -- neither of the two settings stands behind the other
      rcases List.append_eq_append_iff.mp hqs with ⟨between, -, hq'⟩ | ⟨between, -, hp'⟩
      · cases between with
        | nil =>
          cases hq'
          exact hq.unique hp
        | cons a between =>
          cases hq'
          exact absurd hp (h p (by simp) k)
      · cases between with
        | nil =>
          cases hp'
          exact hq.unique hp
        | cons a between =>
          cases hp'
          exact absurd hq (h' q (by simp) l)

/-- The rank of a message by the text of its level, which is that of INFO if it
names none. -/
def Ranks (text : String) (n : Nat) : Prop :=
  (∃ l : Level, l.name = Text.upper text ∧ n = l.rank) ∨
    ((∀ l : Level, l.name ≠ Text.upper text) ∧ n = Level.info.rank)

theorem ranks_rankOf (text : String) : Ranks text (Level.rankOf text) := by
  unfold Level.rankOf
  cases h : Level.ofText? text with
  | some l => exact .inl ⟨l, Level.ofText?_eq_some_iff.mp h, rfl⟩
  | none =>
    refine .inr ⟨fun l hl => ?_, rfl⟩
    rw [Level.ofText?_eq_some_iff.mpr hl] at h
    cases h

/-- **Shared loggers.** After any requests a logger is there exactly if one of them
asked for it, or if it is that of the loader; no name is there twice. Its level is
the one of the last setting with a level that concerned it, or WARNING. A setting
whose level has no name fails with that text and changes no level, neither of a
logger nor the default. A message is printed exactly if it ranks at least as high
as the level of its logger. -/
theorem Registry.levels_settled (coloured : Bool) (qs : List Request) :
    let r := Registry.initial.handleAll qs
    (∀ name l, r.level? name = some l ↔
      (name = loaderName ∨ ∃ q ∈ qs, q.name? = some name) ∧ Settled name qs l) ∧
    (r.levels.map Prod.fst).Nodup ∧
    (∀ q e, r.answer coloured q = .error e ↔
      ∃ text, q.setting? = some text ∧ (∀ l : Level, l.name ≠ Text.upper text) ∧ e = ⟨text⟩) ∧
    (∀ q e, r.answer coloured q = .error e →
      (r.handle q).defaultLevel = r.defaultLevel ∧
        ∀ name l, r.level? name = some l → (r.handle q).level? name = some l) ∧
    (∀ name text message, ∃ l n, Settled name qs l ∧ Ranks text n ∧
      r.answer coloured (.log name text message) =
        .ok (if l.rank ≤ n then [⟨true, coloured, text, name, message⟩] else [])) := by
  intro r
  refine ⟨fun name l => ?_, Registry.nodup_names_handleAll qs, r.answer_eq_error_iff coloured,
    fun q e h => Registry.handle_of_error h, fun name text message => ?_⟩
  · have hsettled : Settled name qs (r.levelOf name) := Registry.settled_handleAll qs name
    rw [← Registry.isSome_level?_handleAll qs name]
    constructor
    · intro h
      rw [Registry.levelOf, h] at hsettled
      exact ⟨by rw [h]; rfl, hsettled⟩
    · rintro ⟨hmade, hl⟩
      obtain ⟨k, hk⟩ := Option.isSome_iff_exists.mp hmade
      rw [Registry.levelOf, hk] at hsettled
      rw [hk, hl.unique hsettled]
      rfl
  · refine ⟨r.levelOf name, _, Registry.settled_handleAll qs name, ranks_rankOf text, ?_⟩
    simp only [Registry.answer, Logger.log, Logger.passes, Registry.logger,
      Registry.levelOf_register, decide_eq_true_eq]

end Log
end Chip8
