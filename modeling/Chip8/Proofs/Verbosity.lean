import Chip8.Proofs.LevelOption
import Chip8.Proofs.Session

/-!
# The level of the log has no part in a session

Two command lines that differ only in the level ask for sessions that do the same:
they end alike, move the progress bar alike and make the same picture. What they
print differs in three ways: the clock is read at different times, one line shows
the level, and the stricter log leaves out the lines that rank too low for it.
`veil` hides the readings of the clock and the level; behind it, the stricter log
is what the level lets through of the laxer one.

Results:
* `heard_start`, `heard_finish`: a stricter log is a filter of a laxer one.
* `veil_start`, `veil_finish`: behind the veil the settings have no part in it.
* `run_heard`: both for a whole session.
* `level_unobserved`: two runs of the program at two levels.
-/
namespace Chip8

namespace Log

/-! ## Filters -/

/-- The lines that a level lets through. -/
def heard (level : Level) (lines : List Line) : List Line :=
  lines.filter fun line => level.rank ≤ Level.rankOf line.level

theorem heard_append (level : Level) (a b : List Line) :
    heard level (a ++ b) = heard level a ++ heard level b :=
  List.filter_append a b

def Logger.at (log : Logger) (level : Level) : Logger := { log with level := level }

variable {log : Logger} {l k : Level}

theorem heard_logAt (h : log.level.rank ≤ k.rank) (level : Level) (message : String) :
    heard k (log.logAt level message) = (log.at k).logAt level message := by
  rw [Logger.logAt_eq, Logger.logAt_eq]
  by_cases hk : k.rank ≤ level.rank
  · rw [if_pos (Nat.le_trans h hk), if_pos (show (log.at k).level.rank ≤ _ from hk)]
    simp [heard, Level.rankOf_name, hk, Logger.at]
  · rw [if_neg (show ¬ (log.at k).level.rank ≤ _ from hk)]
    split <;> simp [heard, Level.rankOf_name, Nat.not_le.mp hk]

theorem heard_inform (h : log.level.rank ≤ k.rank) (messages : List String) :
    heard k (log.inform messages) = (log.at k).inform messages := by
  unfold Logger.inform
  induction messages with
  | nil => rfl
  | cons message messages ih =>
    rw [List.flatMap_cons, List.flatMap_cons, heard_append, heard_logAt h, ih]

/-! ## The veil -/

/-- The beginnings of the messages that tell the time, the speed and the level. -/
def veiled : List String :=
  ["Session finished in ", "  instructions_per_second: ", "  log_level: "]

/-- A message without what it tells of the clock or the level. -/
def veil (message : String) : String :=
  match veiled.find? fun start => start.toList.isPrefixOf message.toList with
  | some start => start
  | none => message

theorem veil_append {start : String} (h : start ∈ veiled) (text : String) :
    veil (start ++ text) = start := by
  simp only [veiled, List.mem_cons, List.not_mem_nil, or_false] at h
  rcases h with rfl | rfl | rfl <;> simp [veil, veiled]

def Line.veil (line : Line) : Line := { line with message := Log.veil line.message }

theorem heard_map_veil (level : Level) (lines : List Line) :
    (heard level lines).map Line.veil = heard level (lines.map Line.veil) := by
  rw [heard, heard, List.filter_map]
  rfl

theorem map_veil_logAt (log : Logger) (level : Level) (message : String) :
    (log.logAt level message).map Line.veil = log.logAt level (veil message) := by
  rw [Logger.logAt_eq, Logger.logAt_eq]
  split <;> rfl

theorem map_veil_inform (log : Logger) (messages : List String) :
    (log.inform messages).map Line.veil = log.inform (messages.map veil) := by
  unfold Logger.inform
  rw [List.map_flatMap, List.flatMap_map]
  simp only [map_veil_logAt]

end Log

namespace Session

/-! ## Sessions -/

open Log (heard Line.veil)

variable {s : Settings} {l k : Log.Level} {console : Console} {lib : Libraries}
  {pictures : PictureLibrary}

theorem heard_start (h : l.rank ≤ k.rank) (s : Settings) (console : Console)
    (content : Except PathError (List UInt8)) :
    heard k (start s l console content).1 = (start s k console content).1 := by
  have hsession : (logger l console).level.rank ≤ k.rank := h
  have hloader : (loader l console).level.rank ≤ k.rank := by rw [loader_eq]; exact h
  have hstricter : (loader l console).at k = loader k console := by
    rw [loader_eq, loader_eq, Log.Logger.at]
  unfold start
  cases machine s console with
  | error reason => exact Log.heard_inform hsession _
  | ok m =>
    simp only [Machine.loadRom]
    cases m.loadContent s.romPath content with
    | ok loaded =>
      simp only [Log.heard_append, Log.heard_inform hsession, Log.heard_logAt hloader, hstricter]
      rfl
    | error e =>
      cases e <;>
        simp only [Log.heard_append, Log.heard_inform hsession, Log.heard_logAt hsession,
          Log.heard_logAt hloader, hstricter] <;>
        rfl

theorem heard_finish (h : l.rank ≤ k.rank) (s : Settings) (console : Console) (r : FrameRun)
    (target : Except PathError Unit) (now : Readings) :
    heard k (finish pictures s l console r target now).1 =
      (finish pictures s k console r target now).1 := by
  have hsession : (logger l console).level.rank ≤ k.rank := h
  unfold finish
  cases r.outcome <;> rcases picture? pictures s r.machine target with - | - | p <;>
    simp only [Log.heard_append, Log.heard_inform hsession, Log.heard_logAt hsession] <;>
    rfl

/-- The level has no part in how a session starts. -/
theorem start_snd (s : Settings) (l k : Log.Level) (console : Console)
    (content : Except PathError (List UInt8)) :
    (start s l console content).2 = (start s k console content).2 := by
  unfold start
  cases machine s console with
  | error reason => rfl
  | ok m =>
    simp only [Machine.loadRom]
    cases m.loadContent s.romPath content with
    | ok loaded => rfl
    | error e => cases e <;> rfl

theorem finish_snd_level (pictures : PictureLibrary) (s : Settings) (l k : Log.Level)
    (console : Console) (r : FrameRun) (target : Except PathError Unit) (now : Readings) :
    (finish pictures s l console r target now).2 = (finish pictures s k console r target now).2 := by
  unfold finish
  cases r.outcome <;> rcases picture? pictures s r.machine target with - | - | p <;> rfl

/-- The settings are told alike but for the level. -/
theorem map_veil_opening (s : Settings) (g : Given String) :
    (Log.openingMessages { s with logLevel := g }.entries).map Log.veil =
      (Log.openingMessages s.entries).map Log.veil := by
  have hlevel (text : String) :
      Log.veil ("  " ++ "log_level" ++ ": " ++ text) = "  log_level: " :=
    Log.veil_append (by simp [Log.veiled]) text
  simp only [Log.openingMessages, Settings.entries, List.map_append, List.map_cons, List.map_nil,
    hlevel]
  rfl

/-- Runs that are alike are told of alike but for the clock. -/
theorem map_veil_closing (r : FrameRun) (now now' : Readings) :
    (Log.closingMessages now.elapsed (statistics r now.rate)).map Log.veil =
      (Log.closingMessages now'.elapsed (statistics r now'.rate)).map Log.veil := by
  have helapsed (now : Readings) :
      Log.veil ("Session finished in " ++ now.elapsed.text ++ "s") = "Session finished in " := by
    rw [String.append_assoc]
    exact Log.veil_append (by simp [Log.veiled]) _
  have hrate (now : Readings) :
      Log.veil ("  instructions_per_second: " ++ now.rate.fixed 4) =
        "  instructions_per_second: " :=
    Log.veil_append (by simp [Log.veiled]) _
  simp only [closingMessages_eq, List.map_cons, List.map_nil, helapsed, hrate]

/-- Two consoles at which a session with these settings is the same: colours are
shown at both or at none, and the clock gives both the same seed if it is needed. -/
structure Console.Alike (s : Settings) (c d : Console) : Prop where
  coloured : d.coloured = c.coloured
  clockSeed : s.seed = none → d.clockSeed = c.clockSeed

variable {c d : Console}

theorem machine_alike (h : Console.Alike s c d) (g : Given String) :
    machine { s with logLevel := g } d = machine s c := by
  have hseed : s.seed.getD (.value d.clockSeed) = s.seed.getD (.value c.clockSeed) := by
    cases hs : s.seed with
    | none => simp [h.clockSeed hs]
    | some seed => rfl
  simp only [machine, hseed]

theorem veil_start (h : Console.Alike s c d) (g : Given String) (k : Log.Level)
    (content : Except PathError (List UInt8)) :
    (start { s with logLevel := g } k d content).1.map Line.veil =
        (start s k c content).1.map Line.veil ∧
      (start { s with logLevel := g } k d content).2 = (start s k c content).2 := by
  have hlogger : logger k d = logger k c := by rw [logger, logger, h.coloured]
  have hloader : loader k d = loader k c := by rw [loader, loader, h.coloured]
  unfold start
  rw [machine_alike h, hlogger, hloader]
  cases machine s c with
  | error reason => simp only [Log.map_veil_inform, map_veil_opening, true_and]
  | ok m =>
    simp only [Machine.loadRom]
    cases m.loadContent s.romPath content with
    | ok loaded => simp only [List.map_append, Log.map_veil_inform, map_veil_opening, true_and]
    | error e =>
      cases e <;>
        simp only [List.map_append, Log.map_veil_inform, map_veil_opening, true_and]

theorem veil_finish (h : Console.Alike s c d) (pictures : PictureLibrary) (g : Given String)
    (k : Log.Level) (r : FrameRun) (target : Except PathError Unit) (now now' : Readings) :
    (finish pictures { s with logLevel := g } k d r target now').1.map Line.veil =
        (finish pictures s k c r target now).1.map Line.veil ∧
      (finish pictures { s with logLevel := g } k d r target now').2 =
        (finish pictures s k c r target now).2 := by
  have hlogger : logger k d = logger k c := by rw [logger, logger, h.coloured]
  have hpicture : picture? pictures { s with logLevel := g } r.machine target =
    picture? pictures s r.machine target := rfl
  unfold finish
  rw [hlogger, hpicture]
  cases r.outcome <;> rcases picture? pictures s r.machine target with - | - | p <;>
    simp only [List.map_append, Log.map_veil_inform, map_veil_closing r now' now, true_and]

/-- Two sessions at two levels do the same, and behind the veil the stricter level
lets through of what the laxer one prints. -/
theorem run_heard (h : Console.Alike s c d) {g : Given String} (hl : level s = .ok l)
    (hk : level { s with logLevel := g } = .ok k) (content : Except PathError (List UInt8))
    (target : Except PathError Unit) (now now' : Readings) :
    let a := run lib s c content target now
    let b := run lib { s with logLevel := g } d content target now'
    b.ending = a.ending ∧ b.bar = a.bar ∧ b.picture = a.picture ∧
      (l.rank ≤ k.rank → b.lines.map Line.veil = heard k (a.lines.map Line.veil)) := by
  intro a b
  obtain ⟨hlines, hstart⟩ := veil_start h g k content
  have hlevel := start_snd s l k c content
  cases hs : (start s k c content).2 with
  | error ending =>
    rw [hs] at hstart hlevel
    have ha : a = _ := run_of_unstarted hl hlevel
    have hb : b = _ := run_of_unstarted hk hstart
    rw [ha, hb]
    refine ⟨rfl, rfl, rfl, fun hle => ?_⟩
    rw [← Log.heard_map_veil, heard_start hle, hlines]
  | ok m =>
    rw [hs] at hstart hlevel
    have hsame : play lib.loops { s with logLevel := g } m = play lib.loops s m := rfl
    cases hplay : play lib.loops s m with
    | error reason =>
      have ha : a = _ := run_of_unplayed hl hlevel hplay
      have hb : b = _ := run_of_unplayed hk hstart (hsame.trans hplay)
      rw [ha, hb]
      refine ⟨rfl, rfl, rfl, fun hle => ?_⟩
      rw [← Log.heard_map_veil, heard_start hle, hlines]
    | ok played =>
      obtain ⟨r, bar⟩ := played
      obtain ⟨hmore, hend⟩ := veil_finish h lib.pictures g k r target now now'
      have hfinish := finish_snd_level lib.pictures s l k c r target now
      have ha : a = _ := run_of_played hl hlevel hplay
      have hb : b = _ := run_of_played hk hstart (hsame.trans hplay)
      rw [ha, hb]
      simp only [hend, hfinish, true_and]
      intro hle
      rw [← Log.heard_map_veil, Log.heard_append, heard_start hle, heard_finish hle,
        List.map_append, List.map_append, hlines, hmore]

end Session

namespace Program

open Session

variable {c d : Console}

/-- Two sessions that were planned from lines that differ in the level. -/
theorem session_unobserved {s t : Settings} (hs : s.Usable) (ht : t.Usable) (hst : s.Apart t)
    (hc : Console.Alike s c d) (lib : Libraries) (content : Except PathError (List UInt8))
    (target : Except PathError Unit) (now now' : Readings) :
    let a := Session.run lib s c content target now
    let b := Session.run lib t d content target now'
    b.ending = a.ending ∧ b.bar = a.bar ∧ b.picture = a.picture ∧
      ∀ l k : Log.Level, s.logLevel = .value l.name → t.logLevel = .value k.name →
        l.rank ≤ k.rank → (b.lines.map Log.Line.veil).Sublist (a.lines.map Log.Line.veil) := by
  intro a b
  rcases hs.logLevel with hempty | ⟨l, hl⟩
  · have ha : a = _ := run_of_noLevel hempty
    have hb : b = _ := run_of_noLevel (hst.level.mp hempty)
    rw [ha, hb]
    exact ⟨rfl, rfl, rfl, fun _ _ _ _ _ => List.Sublist.refl _⟩
  rcases ht.logLevel with hempty | ⟨k, hk⟩
  · cases hl.symm.trans (hst.level.mpr hempty)
  have hlevel : Session.level { s with logLevel := t.logLevel } = .ok k := level_eq hk
  obtain ⟨hending, hbar, hpicture, hlines⟩ :=
    run_heard hc (level_eq hl) hlevel content target now now'
  rw [← hst.rest] at hending hbar hpicture hlines
  refine ⟨hending, hbar, hpicture, fun l' k' hl' hk' hle => ?_⟩
  cases Log.Level.name_inj (Given.value.inj (hl.symm.trans hl'))
  cases Log.Level.name_inj (Given.value.inj (hk.symm.trans hk'))
  rw [hlines hle]
  exact List.filter_sublist

/-- **Verbosity.** Two command lines that differ only in the levels that they name
ask for the same. They are refused alike, or ask alike for help; or they ask for
sessions. Over the same files, which may be any, and with the same libraries, these end
with the same exit code or are aborted for the same reason, make the same calls on the
progress bar and the same picture; and behind the veil over the clock and the level, the
lines printed at the stricter level are among those printed at the laxer one, in their
order. The clock may be read at different times, if it does not give the seed. -/
theorem level_unobserved {as bs : List String} (h : CommandLine.LevelApart as bs)
    (files : FileSystem) (lib : Libraries) (now now' : Readings)
    (hc : ∀ s, plan as = .session s → Console.Alike s c d) :
    (run bs ⟨files, lib, d, now'⟩).exitCode? = (run as ⟨files, lib, c, now⟩).exitCode? ∧
    ((run bs ⟨files, lib, d, now'⟩ = run as ⟨files, lib, c, now⟩ ∧ ∀ s, plan as ≠ .session s) ∨
      ∃ s t a b, plan as = .session s ∧ plan bs = .session t ∧
        run as ⟨files, lib, c, now⟩ = .session a ∧ run bs ⟨files, lib, d, now'⟩ = .session b ∧
        b.ending = a.ending ∧ b.bar = a.bar ∧ b.picture = a.picture ∧
        ∀ l k : Log.Level, s.logLevel = .value l.name → t.logLevel = .value k.name →
          l.rank ≤ k.rank → (b.lines.map Log.Line.veil).Sublist (a.lines.map Log.Line.veil)) := by
  rcases plan_apart h with ⟨hplan, hno⟩ | ⟨s, t, hs, ht, hst⟩
  · have hrun : run bs ⟨files, lib, d, now'⟩ = run as ⟨files, lib, c, now⟩ := by
      unfold run
      rw [← hplan]
      cases hp : plan as with
      | session s => exact absurd hp (hno s)
      | _ => rfl
    exact ⟨by rw [hrun], .inl ⟨hrun, hno⟩⟩
  · have ha := run_of_session hs ⟨files, lib, c, now⟩
    have hb := run_of_session ht ⟨files, lib, d, now'⟩
    have hcontent : files.read t.romPath = files.read s.romPath := by rw [hst.rest]
    have htarget : target t files = target s files := by rw [hst.rest]; rfl
    simp only [hcontent, htarget] at hb
    have hboth := session_unobserved (plan_usable hs) (plan_usable ht) hst (hc s hs) lib
      (files.read s.romPath) (target s files) now now'
    refine ⟨?_, .inr ⟨s, t, _, _, hs, ht, ha, hb, hboth⟩⟩
    rw [ha, hb, Result.exitCode?, Result.exitCode?, hboth.1]

/-- A command line for a session at the level of the given name. -/
def atLevel (name : String) : List String := ["rom.ch8", "--seed", "1", "--log-level", name]

/-- At two levels, at different times. -/
theorem level_unobserved_atLevel :
    let files := (Files.empty.put "rom.ch8" [0x12, 0x00]).system
    let lib : Libraries := ⟨.bounded, obliging⟩
    let now : Readings := ⟨⟨125⟩, .zero false⟩
    ∃ a b, run (atLevel "debug") ⟨files, lib, ⟨false, 0⟩, now⟩ = .session a ∧
      run (atLevel "ERROR") ⟨files, lib, ⟨false, 7⟩, ⟨⟨130⟩, .nan⟩⟩ = .session b ∧
      b.ending = a.ending ∧ b.bar = a.bar ∧ b.picture = a.picture ∧
      (b.lines.map Log.Line.veil).Sublist (a.lines.map Log.Line.veil) := by
  intro files lib now
  have hoption : CommandLine.classify "--log-level" = .ok (.option .logLevel false none) := rfl
  have happart : CommandLine.LevelApart (atLevel "debug") (atLevel "ERROR") :=
    .same (by decide) <| .same (by decide) <| .same (by decide) <|
      .behind hoption ⟨.debug, by decide +kernel⟩ ⟨.error, by decide +kernel⟩ (.refl [])
  have hdebug : plan (atLevel "debug") = .session
      { romPath := "rom.ch8", seed := some (.value 1), logLevel := .value "DEBUG" } := by
    decide +kernel
  have herror : plan (atLevel "ERROR") = .session
      { romPath := "rom.ch8", seed := some (.value 1), logLevel := .value "ERROR" } := by
    decide +kernel
  have hconsole (s : Settings) (h : plan (atLevel "debug") = .session s) :
      Console.Alike s ⟨false, 0⟩ ⟨false, 7⟩ := by
    cases hdebug.symm.trans h
    exact ⟨rfl, nofun⟩
  obtain ⟨-, ⟨-, hno⟩ | ⟨s, t, a, b, hs, ht, ha, hb, hending, hbar, hpicture, hlines⟩⟩ :=
    level_unobserved happart files lib now ⟨⟨130⟩, .nan⟩ hconsole
  · exact absurd hdebug (hno _)
  · cases hdebug.symm.trans hs
    cases herror.symm.trans ht
    exact ⟨a, b, ha, hb, hending, hbar, hpicture, hlines .debug .error rfl rfl (by decide)⟩

end Program
end Chip8
