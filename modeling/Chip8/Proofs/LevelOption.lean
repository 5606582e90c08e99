import Chip8.Proofs.Log
import Chip8.Proofs.Settings

/-!
# Command lines that differ in the level of the log

`LevelApart` relates two command lines that are the same but for the values of the
option for the level of the log, each of which names a level. Both are understood
or none is, and what they ask for differs in nothing but that level.

Results:
* `tokens_apart`: their arguments are of the same kinds.
* `readTokens_apart`, `read_apart`: their options differ in the level.
* `plan_apart`: so do the settings of the sessions that they ask for.
-/
namespace Chip8

/-- Two levels that were given alike: both have a value, or none has. -/
def Given.Alike {α : Type} (g h : Given α) : Prop := g = .empty ↔ h = .empty

theorem Given.Alike.map {α β : Type} {g h : Given α} (hgh : g.Alike h) (f : α → β) :
    (g.map f).Alike (h.map f) := by
  have hempty (g : Given α) : g.map f = .empty ↔ g = .empty := by
    cases g <;> simp [Given.map]
  rw [Alike, hempty, hempty]
  exact hgh

/-- Both stop for the same reason, or both yield something, in the given relation. -/
inductive Both {ε α : Type} (r : α → α → Prop) : Except ε α → Except ε α → Prop
  | error (e : ε) : Both r (.error e) (.error e)
  | ok {a b : α} (h : r a b) : Both r (.ok a) (.ok b)

namespace CommandLine

/-- The text names a level. -/
def NamesLevel (text : String) : Prop := ∃ l, Log.Level.ofText? text = some l

/-- The command lines differ only in the values of the option for the level. A
value stands in the argument behind the option, or in the same one. Behind a
separator there are no options. -/
inductive LevelApart : List String → List String → Prop
  | refl (rest : List String) : LevelApart rest rest
  | same {text : String} {as bs : List String} (h : text ≠ "--") (rest : LevelApart as bs) :
    LevelApart (text :: as) (text :: bs)
  | behind {option t u : String} {short : Bool} {as bs : List String}
    (h : classify option = .ok (.option .logLevel short none)) (ht : NamesLevel t)
    (hu : NamesLevel u) (rest : LevelApart as bs) :
    LevelApart (option :: t :: as) (option :: u :: bs)
  | within {f g t u : String} {short : Bool} {as bs : List String}
    (hf : classify f = .ok (.option .logLevel short (some t)))
    (hg : classify g = .ok (.option .logLevel short (some u))) (ht : NamesLevel t)
    (hu : NamesLevel u) (rest : LevelApart as bs) : LevelApart (f :: as) (g :: bs)

/-- The same of tokens. -/
inductive TokensApart : List Token → List Token → Prop
  | nil : TokensApart [] []
  | same (t : Token) {ts us : List Token} (rest : TokensApart ts us) :
    TokensApart (t :: ts) (t :: us)
  | behind {t u : String} (short : Bool) {ts us : List Token} (ht : NamesLevel t)
    (hu : NamesLevel u) (rest : TokensApart ts us) :
    TokensApart (.option .logLevel short none :: .plain t :: ts)
      (.option .logLevel short none :: .plain u :: us)
  | within {t u : String} (short : Bool) {ts us : List Token} (ht : NamesLevel t)
    (hu : NamesLevel u) (rest : TokensApart ts us) :
    TokensApart (.option .logLevel short (some t) :: ts) (.option .logLevel short (some u) :: us)

theorem TokensApart.refl (ts : List Token) : TokensApart ts ts := by
  induction ts with
  | nil => exact .nil
  | cons t ts ih => exact .same t ih

/-! ## Kinds of arguments -/

/-- The name of a level does not look like an option. -/
theorem classify_of_namesLevel {text : String} (h : NamesLevel text) :
    classify text = .ok (.plain text) := by
  obtain ⟨l, hl⟩ := h
  have hupper := congrArg String.toList (Log.Level.ofText?_eq_some_iff.mp hl)
  rw [Text.upper, String.toList_ofList] at hupper
  have hhead : text.toList.head? ≠ some '-' := by
    intro hdash
    obtain ⟨rest, hrest⟩ := List.head?_eq_some_iff.mp hdash
    rw [hrest, List.flatMap_cons, Text.mapCase_upper (by decide)] at hupper
    have hname : l.name.toList.head? ≠ some '-' := by cases l <;> decide
    exact hname (by rw [hupper]; rfl)
  unfold classify
  simp [hhead]

/-- What an argument may stand for is an option. -/
theorem candidates_ne_separator {text : String} {entry : String × Token}
    (h : entry ∈ candidates text) : entry.2 ≠ .separator := by
  unfold candidates at h
  simp only at h
  split at h
  all_goals
    obtain ⟨spelling, -, rfl⟩ := List.mem_map.mp h
    nofun

/-- Only the separator itself is one. -/
theorem eq_of_classify_separator {text : String} (h : classify text = .ok .separator) :
    text = "--" := by
  unfold classify at h
  simp only at h
  -- test by test; all but one of them yield an option, a text or an error
  split at h
  · cases h
  split at h
  · assumption
  split at h
  · cases h
  split at h
  · cases h
  split at h
  · cases h
  split at h
  · rename_i name token hc
    cases h
    have hmem : (name, Token.separator) ∈ candidates text := by simp [hc]
    exact absurd rfl (candidates_ne_separator hmem)
  · split at h <;> cases h
  · cases h

theorem tokens_cons {text : String} {t : Token} (h : classify text = .ok t)
    (ht : t ≠ .separator) (rest : List String) :
    tokens (text :: rest) =
      match tokens rest with
      | .error e => .error e
      | .ok ts => .ok (t :: ts) := by
  rw [tokens]
  split
  · rename_i he
    rw [h] at he
    cases he
  · rename_i hs
    rw [h] at hs
    cases hs
    exact absurd rfl ht
  · rename_i hs
    rw [h] at hs
    cases hs
    rfl

theorem tokens_cons_of_error {text : String} {e : UsageError} (h : classify text = .error e)
    (rest : List String) : tokens (text :: rest) = .error e := by
  rw [tokens, h]

/-- The arguments are of the same kinds, or the same one has none. -/
theorem tokens_apart {as bs : List String} (h : LevelApart as bs) :
    Both TokensApart (tokens as) (tokens bs) := by
  induction h with
  | refl rest =>
    cases tokens rest with
    | error e => exact .error e
    | ok ts => exact .ok (.refl ts)
  | @same text as bs hne _ ih =>
    cases hc : classify text with
    | error e =>
      rw [tokens_cons_of_error hc, tokens_cons_of_error hc]
      exact .error e
    | ok t =>
      have ht : t ≠ .separator := by
        rintro rfl
        exact hne (eq_of_classify_separator hc)
      rw [tokens_cons hc ht, tokens_cons hc ht]
      generalize tokens as = x at ih ⊢
      generalize tokens bs = y at ih ⊢
      cases ih with
      | error e => exact .error e
      | ok h => exact .ok (.same t h)
  | @behind option t u short as bs ho ht hu _ ih =>
    rw [tokens_cons ho nofun, tokens_cons ho nofun, tokens_cons (classify_of_namesLevel ht) nofun,
      tokens_cons (classify_of_namesLevel hu) nofun]
    generalize tokens as = x at ih ⊢
    generalize tokens bs = y at ih ⊢
    cases ih with
    | error e => exact .error e
    | ok h => exact .ok (.behind short ht hu h)
  | @within f g t u short as bs hf hg ht hu _ ih =>
    rw [tokens_cons hf nofun, tokens_cons hg nofun]
    generalize tokens as = x at ih ⊢
    generalize tokens bs = y at ih ⊢
    cases ih with
    | error e => exact .error e
    | ok h => exact .ok (.within short ht hu h)

namespace Options

/-! ## Options -/

/-- The options differ only in the level, which both have or none has. -/
structure Apart (o p : Options) : Prop where
  rest : p = { o with logLevel := p.logLevel }
  level : o.logLevel.Alike p.logLevel

variable {o p : Options}

theorem Apart.eq (h : o.Apart p) :
    ∃ g, p = { o with logLevel := g } ∧ o.logLevel.Alike g := ⟨p.logLevel, h.rest, h.level⟩

theorem Apart.refl (o : Options) : o.Apart o := ⟨rfl, Iff.rfl⟩

theorem Apart.addExtra (h : o.Apart p) (text : String) :
    (o.addExtra text).Apart (p.addExtra text) := by
  obtain ⟨g, rfl, hg⟩ := h.eq
  exact ⟨rfl, hg⟩

theorem Apart.setRom (h : o.Apart p) (text : String) :
    Apart { o with rom := some text } { p with rom := some text } := by
  obtain ⟨g, rfl, hg⟩ := h.eq
  exact ⟨rfl, hg⟩

theorem Apart.rom (h : o.Apart p) : p.rom = o.rom := by
  rw [h.rest]

theorem Apart.enable (h : o.Apart p) (flag : Flag) : (o.enable flag).Apart (p.enable flag) := by
  obtain ⟨g, rfl, hg⟩ := h.eq
  cases flag <;> exact ⟨rfl, hg⟩

theorem Apart.clear (h : o.Apart p) (flag : Flag) : (o.clear flag).Apart (p.clear flag) := by
  obtain ⟨g, rfl, hg⟩ := h.eq
  cases flag with
  | logLevel => exact ⟨rfl, Iff.rfl⟩
  | _ => exact ⟨rfl, hg⟩

theorem Apart.assign (h : o.Apart p) (flag : Flag) (value : String) :
    Both Apart (o.assign flag value) (p.assign flag value) := by
  obtain ⟨g, rfl, hg⟩ := h.eq
  cases flag with
  | frames | ips | seed | scale =>
    simp only [Options.assign]
    cases integer _ value with
    | error s => exact .error s
    | ok n => exact .ok ⟨rfl, hg⟩
  | seconds =>
    simp only [Options.assign]
    cases Number.binary64? value with
    | none => exact .error _
    | some x => exact .ok ⟨rfl, hg⟩
  | logLevel =>
    simp only [Options.assign]
    cases Log.Level.ofText? value with
    | none => exact .error _
    | some l => exact .ok ⟨rfl, Iff.rfl⟩
  | screenshot | colourScheme => exact .ok ⟨rfl, hg⟩
  | help | wrapSprites | progress => exact .ok (h.enable _)

/-- Two names of levels are values alike. -/
theorem Apart.assignLevel (h : o.Apart p) {t u : String} (ht : NamesLevel t)
    (hu : NamesLevel u) : Both Apart (o.assign .logLevel t) (p.assign .logLevel u) := by
  obtain ⟨g, rfl, hg⟩ := h.eq
  obtain ⟨l, hl⟩ := ht
  obtain ⟨k, hk⟩ := hu
  simp only [Options.assign, hl, hk]
  exact .ok ⟨rfl, by simp [Given.Alike]⟩

theorem Apart.attach (h : o.Apart p) (flag : Flag) (value : String) :
    Both Apart (o.attach flag value) (p.attach flag value) := by
  unfold Options.attach
  split
  · exact .ok (h.clear flag)
  · exact h.assign flag value

theorem Apart.attachLevel (h : o.Apart p) {t u : String} (ht : NamesLevel t)
    (hu : NamesLevel u) : Both Apart (o.attach .logLevel t) (p.attach .logLevel u) := by
  have hne : ∀ {text : String}, NamesLevel text → text ≠ "--" := by
    rintro text htext rfl
    have hplain := classify_of_namesLevel htext
    have hseparator : classify "--" = .ok .separator := rfl
    rw [hseparator] at hplain
    cases hplain
  rw [Options.attach, Options.attach, if_neg (hne ht), if_neg (hne hu)]
  exact h.assignLevel ht hu

end Options

/-! ## Reading -/

theorem TokensApart.dropSeparator {ts us : List Token} (h : TokensApart ts us) :
    TokensApart (Options.dropSeparator ts) (Options.dropSeparator us) := by
  cases h with
  | nil => exact .nil
  | same t rest =>
    cases t with
    | separator => exact rest
    | plain _ => exact .same _ rest
    | unknown _ => exact .same _ rest
    | option _ _ _ => exact .same _ rest
  | behind short ht hu rest => exact .behind short ht hu rest
  | within short ht hu rest => exact .within short ht hu rest

/-- An option with its value in the same argument. -/
theorem TokensApart.attached {flag : Flag} {short : Bool} {value : String} {ts us : List Token}
    (h : TokensApart (.option flag short (some value) :: ts) us) :
    ∃ value' us', us = .option flag short (some value') :: us' ∧ TokensApart ts us' ∧
      (flag.takesValue = false → value' = value) ∧
      ∀ {o p : Options}, o.Apart p →
        Both Options.Apart (o.attach flag value) (p.attach flag value') := by
  cases h with
  | same _ rest => exact ⟨value, _, rfl, rest, fun _ => rfl, fun h => h.attach flag value⟩
  | within short ht hu rest => exact ⟨_, _, rfl, rest, nofun, fun h => h.attachLevel ht hu⟩

/-- An option with its value behind it. -/
theorem TokensApart.followed {flag : Flag} {short : Bool} {value : String} {ts us : List Token}
    (h : TokensApart (.option flag short none :: .plain value :: ts) us) :
    ∃ value' us', us = .option flag short none :: .plain value' :: us' ∧ TokensApart ts us' ∧
      ∀ {o p : Options}, o.Apart p →
        Both Options.Apart (o.assign flag value) (p.assign flag value') := by
  cases h with
  | same _ h =>
    cases h with
    | same _ rest => exact ⟨value, _, rfl, rest, fun h => h.assign flag value⟩
  | behind short ht hu rest => exact ⟨_, _, rfl, rest, fun h => h.assignLevel ht hu⟩

/-- An option without a value. -/
theorem TokensApart.bare {flag : Flag} {short : Bool} {ts us : List Token}
    (h : TokensApart (.option flag short none :: ts) us)
    (hts : flag.takesValue = false ∨ ∀ value more, ts ≠ .plain value :: more) :
    ∃ us', us = .option flag short none :: us' ∧ TokensApart ts us' ∧
      ((∀ value more, ts ≠ .plain value :: more) → ∀ value more, us' ≠ .plain value :: more) := by
  cases h with
  | same _ rest =>
    refine ⟨_, rfl, rest, fun hts value more hus => ?_⟩
    subst hus
    cases rest with
    | same _ _ => exact hts _ _ rfl
  | behind short ht hu rest =>
    rcases hts with h | h
    · cases h
    · exact absurd rfl (h _ _)

namespace Options

theorem readTokens_missing {o : Options} {flag : Flag} {short : Bool} {ts : List Token}
    (htakes : flag.takesValue = true) (h : ∀ value more, ts ≠ .plain value :: more) :
    o.readTokens (.option flag short none :: ts) = .error (.usage (.missingValue flag)) := by
  rw [Options.readTokens, if_pos htakes]
  exact h

theorem readTokens_bare {o : Options} {flag : Flag} {short : Bool} {ts : List Token}
    (htakes : ¬ flag.takesValue = true) :
    o.readTokens (.option flag short none :: ts) =
      if flag = .help then .error .help else (o.enable flag).readTokens ts := by
  rw [Options.readTokens.eq_def o (.option flag short none :: ts)]
  exact if_neg htakes

/-- Command lines that differ in the level are both understood or stop alike. -/
theorem readTokens_apart {ts us : List Token} {o p : Options} (h : TokensApart ts us)
    (ho : o.Apart p) : Both Apart (o.readTokens ts) (p.readTokens us) := by
  -- along the reading of the first line: the second one is read by the same case
  fun_induction Options.readTokens o ts generalizing p us with
  | case1 o =>
    cases h
    rw [Options.readTokens]
    exact .ok ho
  | case2 o text rest path hrom ih =>
    cases h with | same _ h => ?_
    rw [Options.readTokens, ho.rom, hrom]
    exact ih h (ho.addExtra text)
  | case3 o text rest hrom ih =>
    cases h with | same _ h => ?_
    rw [Options.readTokens, ho.rom, hrom]
    exact ih h.dropSeparator (ho.setRom text)
  | case4 o rest hrom ih =>
    cases h with | same _ h => ?_
    rw [Options.readTokens, ho.rom, hrom]
    exact ih h ho
  | case5 o rest path hrom ih =>
    cases h with | same _ h => ?_
    rw [Options.readTokens, ho.rom, hrom]
    exact ih h (ho.addExtra "--")
  | case6 o text rest ih =>
    cases h with | same _ h => ?_
    rw [Options.readTokens]
    exact ih h (ho.addExtra text)
  | case7 o flag short value rest htakes stop hstop =>
    obtain ⟨value', us', rfl, -, -, hattach⟩ := h.attached
    have hread := hattach ho
    rw [hstop] at hread
    rw [Options.readTokens, if_pos htakes]
    generalize p.attach flag value' = r at hread ⊢
    cases hread
    exact .error stop
  | case8 o flag short value rest htakes o' hgo ih =>
    obtain ⟨value', us', rfl, h', -, hattach⟩ := h.attached
    have hread := hattach ho
    rw [hgo] at hread
    rw [Options.readTokens, if_pos htakes]
    generalize p.attach flag value' = r at hread ⊢
    cases hread with
    | ok ho' => exact ih h' ho'
  | case9 o flag short value rest htakes htail =>
    obtain ⟨value', us', rfl, -, hvalue, -⟩ := h.attached
    cases hvalue (Bool.not_eq_true _ ▸ htakes)
    rw [Options.readTokens, if_neg htakes, if_pos htail]
    exact .error _
  | case10 o flag short value rest htakes htail =>
    obtain ⟨value', us', rfl, -, hvalue, -⟩ := h.attached
    cases hvalue (Bool.not_eq_true _ ▸ htakes)
    rw [Options.readTokens, if_neg htakes, if_neg htail]
    exact .error _
  | case11 o flag short htakes value more stop hstop =>
    obtain ⟨value', us', rfl, -, hassign⟩ := h.followed
    have hread := hassign ho
    rw [hstop] at hread
    rw [Options.readTokens, if_pos htakes]
    generalize p.assign flag value' = r at hread ⊢
    cases hread
    exact .error stop
  | case12 o flag short htakes value more o' hgo ih =>
    obtain ⟨value', us', rfl, h', hassign⟩ := h.followed
    have hread := hassign ho
    rw [hgo] at hread
    rw [Options.readTokens, if_pos htakes]
    generalize p.assign flag value' = r at hread ⊢
    cases hread with
    | ok ho' => exact ih h' ho'
  | case13 o flag short rest htakes hmissing =>
    obtain ⟨us', rfl, -, hmissing'⟩ := h.bare (.inr hmissing)
    rw [readTokens_missing htakes (hmissing' hmissing)]
    exact .error _
  | case14 o short rest htakes =>
    obtain ⟨us', rfl, -, -⟩ := h.bare (.inl rfl)
    rw [readTokens_bare htakes, if_pos rfl]
    exact .error _
  | case15 o flag short rest htakes hhelp ih =>
    obtain ⟨us', rfl, h', -⟩ := h.bare (.inl (Bool.not_eq_true _ ▸ htakes))
    rw [readTokens_bare htakes, if_neg hhelp]
    exact ih h' (ho.enable flag)

end Options

/-- Both lines stop alike, or are understood as options that differ in the level. -/
theorem read_apart {as bs : List String} (h : LevelApart as bs) :
    Both Options.Apart (read as) (read bs) := by
  have htokens := tokens_apart h
  unfold read
  generalize tokens as = x at htokens ⊢
  generalize tokens bs = y at htokens ⊢
  cases htokens with
  | error e => exact .error _
  | @ok ts us htokens =>
    have hread := Options.readTokens_apart htokens (Options.Apart.refl {})
    simp only
    generalize ({} : Options).readTokens ts = x at hread ⊢
    generalize ({} : Options).readTokens us = y at hread ⊢
    cases hread with
    | error s => exact .error s
    | @ok o p h =>
      obtain ⟨g, rfl, hg⟩ := h.eq
      simp only
      split
      · exact .error _
      · split
        · exact .ok ⟨rfl, hg⟩
        · exact .error _

end CommandLine

/-! ## Settings -/

/-- The settings differ only in the level, which both have or none has. -/
structure Settings.Apart (s t : Settings) : Prop where
  rest : t = { s with logLevel := t.logLevel }
  level : s.logLevel.Alike t.logLevel

/-- The level has no part in the number of frames. -/
theorem Settings.withSeconds_logLevel (s : Settings) (g : Given String) (x : Seconds) :
    { s with logLevel := g }.withSeconds x =
      (s.withSeconds x).map fun t => { t with logLevel := g } := by
  have hframes : { s with logLevel := g }.framesIn x = s.framesIn x := by
    cases x <;> rfl
  rw [Settings.withSeconds, Settings.withSeconds, hframes]
  cases s.framesIn x <;> rfl

namespace CommandLine.Options

/-- Nor has it a part in whether the settings can be used. -/
theorem settings_withLevel (o : Options) (g : Given Log.Level) :
    ({ o with logLevel := g } : Options).settings =
      o.settings.map fun s => { s with logLevel := g.map Log.Level.name } := by
  have hcomplaint : ({ o with logLevel := g } : Options).complaint? = o.complaint? := rfl
  rw [Options.settings, Options.settings, hcomplaint]
  cases o.complaint? with
  | some e => rfl
  | none =>
    simp only
    cases o.seconds with
    | none => rfl
    | some seconds =>
      cases seconds with
      | empty => rfl
      | value x => exact o.plain.withSeconds_logLevel _ _

theorem settings_logLevel {o : Options} {s : Settings} (h : o.settings = .ok s) :
    s.logLevel = o.logLevel.map Log.Level.name := by
  have hmap := settings_withLevel o o.logLevel
  rw [show ({ o with logLevel := o.logLevel } : Options) = o from rfl, h] at hmap
  exact congrArg Settings.logLevel (Except.ok.inj hmap)

theorem Apart.settings {o p : Options} (h : o.Apart p) :
    Both Settings.Apart o.settings p.settings := by
  obtain ⟨g, rfl, hg⟩ := h.eq
  rw [settings_withLevel o g]
  cases hs : o.settings with
  | error e => exact .error e
  | ok s =>
    refine .ok ⟨rfl, ?_⟩
    rw [settings_logLevel hs]
    exact hg.map Log.Level.name

end CommandLine.Options

/-- Both lines ask for the same, or for sessions that differ only in the level. -/
theorem Program.plan_apart {as bs : List String} (h : CommandLine.LevelApart as bs) :
    (plan as = plan bs ∧ ∀ s, plan as ≠ .session s) ∨
      ∃ s t, plan as = .session s ∧ plan bs = .session t ∧ s.Apart t := by
  have hread := CommandLine.read_apart h
  unfold plan
  generalize CommandLine.read as = x at hread ⊢
  generalize CommandLine.read bs = y at hread ⊢
  cases hread with
  | error stop => cases stop <;> simp
  | @ok o p h =>
    have hsettings := h.settings
    simp only
    generalize o.settings = x at hsettings ⊢
    generalize p.settings = y at hsettings ⊢
    cases hsettings with
    | error e =>
      refine .inl ⟨rfl, fun s hs => ?_⟩
      simp only at hs
      split at hs <;> cases hs
    | @ok s t hst => exact .inr ⟨s, t, rfl, rfl, hst⟩

end Chip8
