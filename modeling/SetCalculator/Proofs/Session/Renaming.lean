import Mathlib.Logic.Equiv.Defs
import SetCalculator.Proofs.Line.Renaming
import SetCalculator.Proofs.Session.Refinement

/-!
# Sessions under a permutation of the registers

Nothing distinguishes one register from another but its name. `Session.Renamed p s t` says that `t`
is `s` with the registers permuted by `p`: what `s` holds in a register, `t` holds in the register's
image, and phase and items are the same. Feeding a line to `s` and the renamed line to `t` keeps the
two so (`Renamed.feed`): reading the line commutes with the renaming (`Command.ofLine_renameLine`),
and so does performing the command (`Renamed.perform`), in which registers are chosen by name, read
and written, and nothing else.

That `p` sends no two registers to one is used where a register is written (`Renamed.assign`): the
other registers must keep their images.
-/

namespace SetCalculator

/-- The line with every word that is a register name replaced by the name of the image. -/
def renameRegisters (p : Equiv.Perm Register) (line : String) : String :=
  String.ofList (renameLine p line.toList)

/-- A renamed line is read as the renamed command. -/
theorem ofLine_renameRegisters (p : Equiv.Perm Register) (line : String) :
    Command.ofLine (renameRegisters p line).toList =
      (Command.ofLine line.toList).map (Option.map (Command.rename p)) := by
  rw [renameRegisters, String.toList_ofList, Command.ofLine_renameLine]

namespace Session

/-- `t` is in the state of `s`, with the registers permuted. -/
structure Renamed (p : Equiv.Perm Register) (s t : Session) : Prop where
  contents : ∀ r, t.registers.get (p r) = s.registers.get r
  phase : t.phase = s.phase
  capturing : t.capturing = s.capturing
  transcript : t.transcript = s.transcript

variable {p : Equiv.Perm Register} {s t : Session}

/-- A new session holds nothing in any register. -/
theorem renamed_captured (p : Equiv.Perm Register) : captured.Renamed p captured where
  contents r := (Registers.get_empty (p r)).trans (Registers.get_empty r).symm
  phase := rfl
  capturing := rfl
  transcript := rfl

namespace Renamed

/-- Sessions whose registers are exchanged stay so when both show the same text. -/
theorem emit (h : s.Renamed p t) (stream : Stream) (text : String) :
    (s.emit stream text).state.Renamed p (t.emit stream text).state := by
  refine ⟨?_, ?_, ?_, ?_⟩
  · intro r
    rw [registers_emit, registers_emit, h.contents]
  · rw [phase_emit, phase_emit, h.phase]
  · rw [capturing_emit, capturing_emit, h.capturing]
  · unfold Session.emit
    rw [h.capturing, h.transcript]
    split
    · rfl
    · exact h.transcript

/-- Writing a register of the one session, and its image of the other. -/
theorem assign (h : s.Renamed p t) (r : Register) (contents : MemberSet) :
    ({ s with registers := s.registers.set r contents } : Session).Renamed p
      { t with registers := t.registers.set (p r) contents } := by
  refine ⟨fun q => ?_, h.phase, h.capturing, h.transcript⟩
  show (t.registers.set (p r) contents).get (p q) = (s.registers.set r contents).get q
  rw [Registers.get_set, Registers.get_set, h.contents q]
  simp only [p.apply_eq_iff_eq]

/-- **One command and the renamed one** are answered alike, and the registers stay exchanged. -/
theorem perform (h : s.Renamed p t) (command : Command) :
    (t.perform (command.rename p)).answer = (s.perform command).answer ∧
      (s.perform command).state.Renamed p (t.perform (command.rename p)).state := by
  cases command with
  | read target members =>
    have hcontents : (t.registers.get (p target)).refill members =
        (s.registers.get target).refill members := by
      rw [h.contents]
    refine ⟨rfl, ?_⟩
    show Renamed p { s with registers := s.registers.set target _ }
      { t with registers := t.registers.set (p target) _ }
    rw [hcontents]
    exact h.assign target _
  | print register =>
    refine ⟨rfl, ?_⟩
    show (s.emit .output (s.registers.get register).render).state.Renamed p
      (t.emit .output (t.registers.get (p register)).render).state
    rw [h.contents]
    exact h.emit _ _
  | combine op lhs rhs dest =>
    have hcontents : op.apply (t.registers.get (p lhs)) (t.registers.get (p rhs)) =
        op.apply (s.registers.get lhs) (s.registers.get rhs) := by
      rw [h.contents, h.contents]
    refine ⟨rfl, ?_⟩
    show Renamed p { s with registers := s.registers.set dest _ }
      { t with registers := t.registers.set (p dest) _ }
    rw [hcontents]
    exact h.assign dest _
  | stop => exact ⟨rfl, h.contents, rfl, h.capturing, h.transcript⟩

/-- A line, and the renamed line, are executed or refused alike. -/
theorem executeLine (h : s.Renamed p t) (line : String) :
    (t.executeLine (renameRegisters p line)).answer = (s.executeLine line).answer ∧
      (s.executeLine line).state.Renamed p (t.executeLine (renameRegisters p line)).state := by
  have hreads := ofLine_renameRegisters p line
  cases hline : Command.ofLine line.toList with
  | error rejection =>
    rw [hline] at hreads
    rw [executeLine_of_rejected hline, executeLine_of_rejected hreads]
    exact ⟨rfl, h⟩
  | ok asked =>
    rw [hline] at hreads
    cases asked with
    | none =>
      rw [executeLine_of_blank hline, executeLine_of_blank hreads]
      exact ⟨rfl, h⟩
    | some command =>
      cases hphase : s.phase with
      | terminated =>
        rw [executeLine_of_terminated hphase hline,
          executeLine_of_terminated (h.phase.trans hphase) hreads]
        exact ⟨rfl, h⟩
      | idle =>
        rw [executeLine_of_idle hphase hline, executeLine_of_idle (h.phase.trans hphase) hreads]
        obtain ⟨hanswer, hstate⟩ := h.perform command
        exact ⟨congrArg Except.ok hanswer, hstate⟩

/-- **One line and the renamed one** are answered alike, and the registers stay exchanged. -/
theorem feed (h : s.Renamed p t) (line : String) :
    (t.feed (renameRegisters p line)).answer = (s.feed line).answer ∧
      (s.feed line).state.Renamed p (t.feed (renameRegisters p line)).state := by
  obtain ⟨hanswer, hstate⟩ := h.executeLine line
  cases hdone : (s.executeLine line).answer with
  | ok flow =>
    rw [feed_of_ok hdone, feed_of_ok (hanswer.trans hdone)]
    refine ⟨rfl, ?_⟩
    dsimp only
    exact hstate
  | error refusal =>
    rw [feed_of_error hdone, feed_of_error (hanswer.trans hdone)]
    refine ⟨rfl, ?_⟩
    dsimp only
    exact hstate.emit .diagnostics _

/-- **Lines one after the other**, and the renamed ones. -/
theorem feedAll (h : s.Renamed p t) (lines : List String) :
    (t.feedAll (lines.map (renameRegisters p))).answer = (s.feedAll lines).answer ∧
      (s.feedAll lines).state.Renamed p (t.feedAll (lines.map (renameRegisters p))).state := by
  induction lines generalizing s t with
  | nil => exact ⟨rfl, h⟩
  | cons line lines ih =>
    obtain ⟨hanswer, hstate⟩ := h.feed line
    obtain ⟨hanswers, hend⟩ := ih hstate
    simp only [List.map_cons, Session.feedAll, hanswer, hanswers, true_and]
    exact hend

end Renamed

/-- **Registers are interchangeable.** Feed lines to one new session, and to another one the same
lines with every word that is a register name replaced by the name of its image under a permutation,
wherever the word stands and whether or not the line is a command. After every beginning of the
lines the two are in the same phase, have shown the same items and have answered each line alike,
and what the first holds in a register, the second holds in its image. -/
theorem registers_are_interchangeable (p : Equiv.Perm Register) (lines : List String) (n : Nat) :
    let fed := captured.feedAll (lines.take n)
    let renamed := captured.feedAll ((lines.map (renameRegisters p)).take n)
    renamed.state.phase = fed.state.phase ∧
    renamed.state.transcript = fed.state.transcript ∧
    renamed.answer = fed.answer ∧
    ∀ r, fed.state.registers.get r = renamed.state.registers.get (p r) := by
  intro fed renamed
  have hrenamed : renamed = captured.feedAll ((lines.take n).map (renameRegisters p)) :=
    congrArg captured.feedAll List.map_take.symm
  obtain ⟨hanswer, hstate⟩ := (renamed_captured p).feedAll (lines.take n)
  rw [hrenamed]
  exact ⟨hstate.phase, hstate.transcript, hanswer, fun r => (hstate.contents r).symm⟩

end Session

end SetCalculator
