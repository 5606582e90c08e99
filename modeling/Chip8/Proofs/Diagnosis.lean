import Chip8.Proofs.Log
import Chip8.Proofs.Persistence

/-!
# What is told about a fault

The machine that a faulting frame leaves has had its clock period. What is told
about it is what would be told about the machine whose step faulted, because a
clock period touches neither the program counter nor the memory.

A host is told of a fault in two ways, by an error and by a line of the log, and each
reads the memory anew. `Diagnoses` says that both tell of the step that faulted: of its
address and of the very word that was fetched and refused. The kind of the error is the
one that stands for the fault.

Results:
* `runFrames_stopped`: a sequence of frames that faults stopped at a step.
* `word?_eq_none_of_error`: which steps found no word.
* `faultLine_eq`, `Stopped.faultLine_eq`: the line about a fault.
* `refuses_iff`: the word that a step refused.
* `diagnoses_of_error`: a machine tells of a step if it has the memory and the program
  counter of the machine that made it.
* `diagnosis_agrees`: steps, runs and sequences of frames are told of so.
-/
namespace Chip8
namespace Machine

/-! ## The step that faulted -/

/-- A sequence of frames stopped at a step of `q` with a fault: the step comes
after the counted frames and `e` steps of the next one, and the frame still had
its clock period. -/
structure Stopped (m : Machine) (k : Nat) (r : FrameRun) (f : Fault) (q : Machine) : Prop where
  step : q.step = .error f
  place : ∃ e < k, q = (m.nthFrame k r.frames).nth e ∧ r.executed = r.frames * k + e
  machine : r.machine = q.tick

theorem runFrames_stopped {m : Machine} {count k : Nat} {f : Fault}
    (h : (m.runFrames count k).outcome = .fault f) :
    ∃ q, m.Stopped k (m.runFrames count k) f q := by
  have hhalt := m.runFrames_halts count k
  generalize m.runFrames count k = r at h hhalt
  cases hhalt with
  | completed => cases h
  | faulted i e g hi hall hf =>
    cases h
    have hle := hf.executed_le
    have hne := hf.executed_eq_iff
    simp only [reduceCtorEq, iff_false] at hle hne
    exact ⟨(m.nthFrame k i).nth e, hf.step_of_fault rfl, ⟨e, by omega, rfl, rfl⟩, rfl⟩

/-- Only a step that found no word reports that the program counter is out of range. -/
theorem word?_eq_none_of_error {q : Machine} {f : Fault} (h : q.step = .error f) :
    q.word? = none ↔ f = .pcOutOfRange := by
  constructor
  · intro hw
    rw [step_eq, hw] at h
    cases h
    rfl
  · rintro rfl
    have hcause : q.Causes .pcOutOfRange := (q.verdict_eq_fault_iff .pcOutOfRange).mp (by
      rw [← outcome_step, h]
      rfl)
    exact q.word?_eq_none_iff.mpr hcause

/-! ## The line about it -/

def wordText (q : Machine) : String :=
  match q.word? with
  | none => "----"
  | some w => "0x" ++ Text.hex 4 w.toNat

theorem faultLine_eq (q : Machine) (f : Fault) :
    q.faultLine (.fault f) =
      f.name ++ " at pc=0x" ++ Text.hex 3 q.pc.toNat ++ " (opcode " ++ q.wordText ++ ")" := by
  have hword : q.currentWord? = q.word? := rfl
  unfold faultLine wordText
  rw [hword]
  cases q.word? <;> rfl

/-- After the clock period the same is told. -/
theorem Stopped.faultLine_eq {m q : Machine} {k : Nat} {r : FrameRun} {f : Fault}
    (h : m.Stopped k r f q) (o : Outcome) : r.machine.faultLine o = q.faultLine o := by
  rw [h.machine]
  rfl

/-! ## Both accounts -/

/-- A step of `q` fetches the word and then faults on it. -/
def Refuses (q : Machine) (w : UInt16) (f : Fault) : Prop :=
  ∃ t, q.fetch = .ok (w, t) ∧ t.execute w.toNat = .error f

theorem refuses_iff {q : Machine} {f : Fault} (h : q.step = .error f) (w : UInt16) :
    q.Refuses w f ↔ q.word? = some w := by
  constructor
  · rintro ⟨t, hfetch, -⟩
    exact (fetch_eq_ok_iff.mp hfetch).1
  · intro hw
    have hfetch : q.fetch = .ok (w, q.fetched w) := fetch_eq_ok_iff.mpr ⟨hw, rfl⟩
    refine ⟨_, hfetch, ?_⟩
    simpa only [step, hfetch] using h

end Machine

/-- How a report tells the word in a line. -/
def FaultReport.wordText (r : FaultReport) : String :=
  match r.opcode with
  | none => "----"
  | some w => "0x" ++ Text.hex 4 w

/-- A line at level ERROR is printed unless the logger is at level CRITICAL. -/
theorem Log.Logger.logAt_error_eq (l : Log.Logger) (message : String) :
    l.logAt .error message = if l.level = .critical then []
      else [⟨l.stamped, l.coloured, "ERROR", l.name, message⟩] := by
  rw [logAt_eq]
  cases l.level <;> rfl

theorem Log.SessionLogger.logFault_code (l : Log.SessionLogger) (o : Outcome) (t : Machine) :
    l.logFault o.code t =
      .ok ({ l with faults := l.faults ++ [⟨o, t.pc.toNat⟩] },
        if l.level = .critical then []
        else [⟨l.stamped, l.coloured, "ERROR", l.name, t.faultLine o⟩]) := by
  rw [logFault, Outcome.ofCode_code, ← l.logAt_error_eq]

namespace Machine

/-- What a host is told of the fault `f` on the machine `t`, by the error `r` and by any
session's logger, is about the step of `q` that faulted. -/
structure Diagnoses (t q : Machine) (f : Fault) (r : FaultReport) : Prop where
  raised : Outcome.reportOfCode (Outcome.fault f).code (some t) = .ok (some r)
  kind : ∀ c : FaultClass, c.fault? = some f ↔ c = r.kind
  pc : r.pc = some (q.pc.toNat : Int)
  opcode : ∀ w : Int, r.opcode = some w ↔ ∃ u : UInt16, q.Refuses u f ∧ w = u.toNat
  noOpcode : r.opcode = none ↔ f = .pcOutOfRange
  logged : ∀ l : Log.SessionLogger, l.logFault (Outcome.fault f).code t =
    .ok ({ l with faults := l.faults ++ [⟨.fault f, q.pc.toNat⟩] },
      if l.level = .critical then []
      else [⟨l.stamped, l.coloured, "ERROR", l.name,
        f.name ++ " at pc=0x" ++ Text.hex 3 q.pc.toNat ++ " (opcode " ++ r.wordText ++ ")"⟩])

theorem wordText_report (t : Machine) (f : Fault) : (t.report f).wordText = t.wordText := by
  have hword : t.currentWord? = t.word? := rfl
  unfold FaultReport.wordText report wordText
  rw [hword]
  cases t.word? <;> rfl

theorem diagnoses_of_error {t q : Machine} {f : Fault} (h : q.step = .error f)
    (hmemory : t.memory = q.memory) (hpc : t.pc = q.pc) : t.Diagnoses q f (t.report f) := by
  have hword : t.currentWord? = q.word? := by rw [currentWord?, hmemory, hpc]; rfl
  have hopcode : (t.report f).opcode = q.word?.map fun u => (u.toNat : Int) := by
    rw [report, hword]
  refine ⟨?_, fun c => c.fault?_eq_some_iff f, ?_, ?_, ?_, ?_⟩
  · rw [Outcome.reportOfCode, Outcome.ofCode_code]
    rfl
  · rw [report, hpc]
  · intro w
    rw [hopcode, Option.map_eq_some_iff]
    exact exists_congr fun u => and_congr (refuses_iff h u).symm eq_comm
  · rw [hopcode, Option.map_eq_none_iff, word?_eq_none_of_error h]
  · intro l
    rw [l.logFault_code, t.faultLine_eq, wordText_report, hpc]

/-- **Diagnosis.** A step that faults is told of on the machine it leaves. The error is of
the one kind that stands for the fault, with its address and the word that was refused; it
has no word exactly if there was none to fetch. A session's logger keeps the fault with
that address, whatever its level, and unless the level is CRITICAL it prints one line,
with the same word. A run and a sequence of frames that fault are told of like the step
at which they stopped, although the frame has had its clock period since. -/
theorem diagnosis_agrees (m : Machine) :
    (∀ f, m.step = .error f → ∃ r, m.afterStep.Diagnoses m f r) ∧
    (∀ n f, (m.run n).outcome = .fault f →
      let q := m.nth (m.run n).executed
      m.Halts n (m.run n) ∧ q.step = .error f ∧ ∃ r, (m.run n).machine.Diagnoses q f r) ∧
    (∀ count k f, (m.runFrames count k).outcome = .fault f →
      ∃ q, m.Stopped k (m.runFrames count k) f q ∧
        ∃ r, (m.runFrames count k).machine.Diagnoses q f r) := by
  refine ⟨?_, ?_, ?_⟩
  · intro f h
    rw [afterStep_of_error h]
    exact ⟨_, diagnoses_of_error h rfl rfl⟩
  · intro n f h
    have hhalt := m.run_halts n
    have hstep := hhalt.step_of_fault h
    intro q
    have hq : (m.run n).machine = q := hhalt.machine_eq
    rw [hq] at hstep ⊢
    exact ⟨hhalt, hstep, _, diagnoses_of_error hstep rfl rfl⟩
  · intro count k f h
    obtain ⟨q, hq⟩ := runFrames_stopped h
    have hmemory : (m.runFrames count k).machine.memory = q.memory := by rw [hq.machine]; rfl
    have hpc : (m.runFrames count k).machine.pc = q.pc := by rw [hq.machine]; rfl
    exact ⟨q, hq, _, diagnoses_of_error hq.step hmemory hpc⟩

/-- BNNN to past the end of memory, with a timer running. -/
def overrunning : Machine :=
  { blank ⟨0, 0⟩ .clip with
    memory := overwrite (Vector.replicate 4096 0) 0x200 [0xBF, 0xFF]
    regs := overwrite (Vector.replicate 16 0) 0 [0xFF]
    delayTimer := 9 }

/-- The second frame finds no word to fetch. A second program runs into a word that is no
instruction, in a run and in a single step. -/
theorem diagnosis_agrees_overrunning :
    ((overrunning.runFrames 3 1).outcome = .fault .pcOutOfRange ∧
      ∃ q r, overrunning.Stopped 1 (overrunning.runFrames 3 1) .pcOutOfRange q ∧
        (overrunning.runFrames 3 1).machine.Diagnoses q .pcOutOfRange r ∧
        r.pc = some 0x10FE ∧ r.opcode = none ∧ r.wordText = "----") ∧
    ((stranded.run 4).outcome = .fault .unknownInstruction ∧
      ∃ r, (stranded.run 4).machine.Diagnoses stranded.afterStep .unknownInstruction r ∧
        r.opcode = some 0) ∧
    (stranded.afterStep.step = .error .unknownInstruction ∧
      ∃ r, stranded.afterStep.afterStep.Diagnoses stranded.afterStep .unknownInstruction r) := by
  have hframes : (overrunning.runFrames 3 1).outcome = .fault .pcOutOfRange := by decide +kernel
  have hrun : (stranded.run 4).outcome = .fault .unknownInstruction := by decide +kernel
  have hstep : stranded.afterStep.step = .error .unknownInstruction :=
    Outcome.ofExcept_eq_fault_iff.mp (by decide +kernel)
  refine ⟨⟨hframes, ?_⟩, ⟨hrun, ?_⟩, hstep, (diagnosis_agrees _).1 _ hstep⟩
  · obtain ⟨q, hq, r, hr⟩ := (diagnosis_agrees overrunning).2.2 3 1 _ hframes
    have hnone : r.opcode = none := hr.noOpcode.mpr rfl
    have hpc : (overrunning.runFrames 3 1).machine.pc.toNat = 0x10FE := by decide +kernel
    have hqpc : q.pc.toNat = 0x10FE := by rw [← hpc, hq.machine]; rfl
    refine ⟨q, r, hq, hr, ?_, hnone, ?_⟩
    · rw [hr.pc, hqpc]
      rfl
    · rw [FaultReport.wordText, hnone]
  · obtain ⟨-, herror, r, hr⟩ := (diagnosis_agrees stranded).2.1 4 _ hrun
    have hone : (stranded.run 4).executed = 1 := by decide +kernel
    rw [hone] at hr
    have hword : stranded.afterStep.word? = some 0 := by decide +kernel
    exact ⟨r, hr, (hr.opcode 0).mpr ⟨0, (refuses_iff hstep 0).mpr hword, rfl⟩⟩

end Machine
end Chip8
