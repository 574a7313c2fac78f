import SetCalculator.Proofs.Output.Printed
import SetCalculator.Session

/-!
# Feeding lines to an idle session

Both front ends feed lines to a session that is idle until a line stops it. This module says what
they rely on: only a line that reads as the command `stop` is answered by `Flow.stop`, and any other
line leaves the session idle (`answer_feed_eq_stop_iff`, `phase_feed`); lines that ask for the same
are fed alike (`feed_alike`); and what a session answers and keeps is the same whether it prints or
captures (`Agrees.feed`). A session that prints shows exactly `shown` (`printed_feed`).
-/

namespace SetCalculator

open Log

/-- Two steps that differ at most in what they log. -/
structure Step.Alike {σ α : Type} (a b : Step σ α) : Prop where
  answer : a.answer = b.answer
  state : a.state = b.state
  printed : printed a.events = printed b.events

/-- Whether a line asks to stop. -/
def AsksToStop (line : String) : Prop := Command.ofLine line.toList = .ok (some .stop)

namespace Session

/-- A session prints what it does not capture. -/
theorem printed_emit (s : Session) (stream : Stream) (text : String) :
    printed (s.emit stream text).events = if s.capturing then [] else [(stream, text)] := by
  unfold emit
  split
  · rfl
  · rfl

/-- A session that prints keeps nothing of what it shows. -/
theorem state_emit_of_printing {s : Session} (h : s.capturing = false) (stream : Stream)
    (text : String) : (s.emit stream text).state = s := by
  rw [emit, if_neg (by simp [h])]

/-- Whether a session captures does not change. -/
@[simp] theorem capturing_feed (s : Session) (line : String) :
    (s.feed line).state.capturing = s.capturing := by
  rcases executeLine_cases s line with
    ⟨_, hrefused, hstate⟩ | ⟨-, hok, hstate⟩ | ⟨command, -, -, hok, hstate⟩
  · rw [feed_of_error hrefused, hstate]
    exact capturing_emit s _ _
  · rw [feed_of_ok hok, hstate]
  · rw [feed_of_ok hok, hstate]
    cases command with
    | read target members => rfl
    | print register => exact capturing_emit s _ _
    | combine op lhs rhs dest => rfl
    | stop => rfl

/-! ## Lines that ask for the same -/

section

variable {line line' : String}

/-- Lines that are read as the same are executed alike. -/
theorem executeLine_alike (s : Session)
    (h : Command.ofLine line.toList = Command.ofLine line'.toList) :
    (s.executeLine line).Alike (s.executeLine line') := by
  cases hline : Command.ofLine line.toList with
  | error rejection =>
    rw [executeLine_of_rejected hline, executeLine_of_rejected (h.symm.trans hline)]
    exact ⟨rfl, rfl, by simp⟩
  | ok asked =>
    cases asked with
    | none =>
      rw [executeLine_of_blank hline, executeLine_of_blank (h.symm.trans hline)]
      exact ⟨rfl, rfl, by simp⟩
    | some command =>
      cases hphase : s.phase with
      | terminated =>
        rw [executeLine_of_terminated hphase hline,
          executeLine_of_terminated hphase (h.symm.trans hline)]
        exact ⟨rfl, rfl, by simp⟩
      | idle =>
        rw [executeLine_of_idle hphase hline, executeLine_of_idle hphase (h.symm.trans hline)]
        exact ⟨rfl, rfl, by simp⟩

/-- **Lines that ask for the same are fed alike.** -/
theorem feed_alike (s : Session) (h : Command.ofLine line.toList = Command.ofLine line'.toList) :
    (s.feed line).Alike (s.feed line') := by
  obtain ⟨hanswer, hstate, hprinted⟩ := executeLine_alike s h
  cases hdone : (s.executeLine line).answer with
  | ok flow =>
    rw [feed_of_ok hdone, feed_of_ok (hanswer.symm.trans hdone)]
    exact ⟨rfl, hstate, hprinted⟩
  | error refusal =>
    rw [feed_of_error hdone, feed_of_error (hanswer.symm.trans hdone), hstate]
    exact ⟨rfl, rfl, by simp [hprinted]⟩

end

/-! ## Sessions that are idle -/

section

variable {s : Session} (hs : s.phase = .idle)
include hs

/-- Only a line that asks to stop is answered so. -/
theorem answer_feed_eq_stop_iff (line : String) :
    (s.feed line).answer = .stop ↔ AsksToStop line := by
  rw [AsksToStop]
  cases hline : Command.ofLine line.toList with
  | error rejection =>
    rw [feed_of_rejected hline]
    exact ⟨nofun, nofun⟩
  | ok asked =>
    cases asked with
    | none =>
      rw [feed_of_blank hline]
      exact ⟨nofun, nofun⟩
    | some command =>
      rw [feed_of_idle hs hline]
      cases command with
      | read target members => exact ⟨nofun, nofun⟩
      | print register => exact ⟨nofun, nofun⟩
      | combine op lhs rhs dest => exact ⟨nofun, nofun⟩
      | stop => exact ⟨fun _ => rfl, fun _ => rfl⟩

/-- Every other line leaves the session idle. -/
theorem phase_feed {line : String} (h : ¬ AsksToStop line) : (s.feed line).state.phase = .idle := by
  rw [AsksToStop] at h
  cases hline : Command.ofLine line.toList with
  | error rejection =>
    rw [feed_of_rejected hline]
    exact (phase_emit s _ _).trans hs
  | ok asked =>
    cases asked with
    | none =>
      rw [feed_of_blank hline]
      exact hs
    | some command =>
      have hgoes : command ≠ .stop := by
        rintro rfl
        exact h hline
      rw [feed_of_idle hs hline]
      exact (phase_perform_of_ne_stop s hgoes).trans hs

end

/-- What a session that prints shows in return for a line. -/
def shown (s : Session) (line : String) : List (Stream × String) :=
  match Command.ofLine line.toList with
  | .error rejection => [(.diagnostics, "Error: " ++ rejection.message)]
  | .ok (some (.print register)) => [(.output, (s.registers.get register).render)]
  | .ok _ => []

/-- **What a line prints**: its report if it is rejected, the set if it asks for one, and otherwise
nothing. -/
theorem printed_feed {s : Session} (hs : s.phase = .idle) (hprints : s.capturing = false)
    (line : String) : printed (s.feed line).events = s.shown line := by
  rw [shown]
  cases hline : Command.ofLine line.toList with
  | error rejection =>
    rw [feed_of_rejected hline]
    simp [report, printed_emit, hprints, Refusal.message]
  | ok asked =>
    cases asked with
    | none =>
      rw [feed_of_blank hline]
      simp
    | some command =>
      rw [feed_of_idle hs hline]
      cases command with
      | read target members => simp [perform]
      | print register => simp [perform, printed_emit, hprints]
      | combine op lhs rhs dest => simp [perform]
      | stop => simp [perform]

/-! ## Printing and capturing -/

/-- The sessions hold the same sets and are in the same phase; where their items go may differ. -/
structure Agrees (s t : Session) : Prop where
  registers : s.registers = t.registers
  phase : s.phase = t.phase

namespace Agrees

variable {s t : Session}

/-- What the sessions show need not be the same. -/
theorem emit (h : s.Agrees t) (stream : Stream) (text text' : String) :
    (s.emit stream text).state.Agrees (t.emit stream text').state := by
  refine ⟨?_, ?_⟩
  · rw [registers_emit, registers_emit, h.registers]
  · rw [phase_emit, phase_emit, h.phase]

/-- A command does the same to sessions that agree, although the items of a print may go
elsewhere. -/
theorem perform (h : s.Agrees t) (command : Command) :
    (s.perform command).answer = (t.perform command).answer ∧
      (s.perform command).state.Agrees (t.perform command).state := by
  cases command with
  | read target members =>
    exact ⟨rfl, congrArg (fun rs : Registers => rs.read target members) h.registers, h.phase⟩
  | print register => exact ⟨rfl, h.emit .output _ _⟩
  | combine op lhs rhs dest =>
    exact ⟨rfl, congrArg (fun rs : Registers => rs.combine op lhs rhs dest) h.registers, h.phase⟩
  | stop => exact ⟨rfl, h.registers, rfl⟩

/-- A line does the same to sessions that agree. -/
theorem executeLine (h : s.Agrees t) (line : String) :
    (s.executeLine line).answer = (t.executeLine line).answer ∧
      (s.executeLine line).state.Agrees (t.executeLine line).state := by
  cases hline : Command.ofLine line.toList with
  | error rejection =>
    rw [executeLine_of_rejected hline, executeLine_of_rejected hline]
    exact ⟨rfl, h⟩
  | ok asked =>
    cases asked with
    | none =>
      rw [executeLine_of_blank hline, executeLine_of_blank hline]
      exact ⟨rfl, h⟩
    | some command =>
      cases hphase : s.phase with
      | terminated =>
        rw [executeLine_of_terminated hphase hline,
          executeLine_of_terminated (h.phase.symm.trans hphase) hline]
        exact ⟨rfl, h⟩
      | idle =>
        rw [executeLine_of_idle hphase hline,
          executeLine_of_idle (h.phase.symm.trans hphase) hline]
        obtain ⟨hanswer, hstate⟩ := h.perform command
        exact ⟨congrArg Except.ok hanswer, hstate⟩

/-- **A line is answered alike by sessions that agree**, and they agree after it. -/
theorem feed (h : s.Agrees t) (line : String) :
    (s.feed line).answer = (t.feed line).answer ∧
      (s.feed line).state.Agrees (t.feed line).state := by
  obtain ⟨hanswer, hstate⟩ := h.executeLine line
  cases hdone : (s.executeLine line).answer with
  | ok flow =>
    rw [feed_of_ok hdone, feed_of_ok (hanswer.symm.trans hdone)]
    exact ⟨rfl, hstate⟩
  | error refusal =>
    rw [feed_of_error hdone, feed_of_error (hanswer.symm.trans hdone)]
    exact ⟨rfl, hstate.emit .diagnostics _ _⟩

end Agrees

end Session

end SetCalculator
