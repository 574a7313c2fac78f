import Mathlib.Data.List.Basic
import SetCalculator.Session

/-!
# What one line changes

Whatever line a session that captures is fed, at most one thing changes: one item is added to the
transcript, one register is written, or the session is stopped. `Change` lists these changes, and
`change_feed` says that a line makes one of them or none. A line that is refused, because it is no
command or because the session was stopped before, is executed without any change
(`state_executeLine_of_error`), so feeding it adds the report and nothing else.

Everything is read off `executeLine_cases`: a line is refused, or blank, or its command is performed
in a session that was idle.
-/

namespace SetCalculator

/-- The register that a command writes. -/
def Command.written? : Command → Option Register
  | .read target _ => some target
  | .print _ => none
  | .combine _ _ _ dest => some dest
  | .stop => none

namespace Session

/-- `s.Change t`: the session `t` differs from `s` in one thing at most. -/
inductive Change (s : Session) : Session → Prop
  /-- Nothing changes. -/
  | nothing : Change s s
  /-- One item is added to the transcript. -/
  | item (text : String) : Change s { s with transcript := s.transcript.push text }
  /-- One register is written. -/
  | register (r : Register) (contents : MemberSet) :
    Change s { s with registers := s.registers.set r contents }
  /-- An idle session is stopped. -/
  | stop : s.phase = .idle → Change s { s with phase := .terminated }

/-! ## Executing a line -/

/-- A refused line is executed without any change. -/
theorem state_executeLine_of_error {s : Session} {line : String} {refusal : Refusal}
    (h : (s.executeLine line).answer = .error refusal) : (s.executeLine line).state = s := by
  rcases executeLine_cases s line with ⟨_, -, hstate⟩ | ⟨-, hok, -⟩ | ⟨_, -, -, hok, -⟩
  · exact hstate
  · rw [hok] at h
    cases h
  · rw [hok] at h
    cases h

/-! ## Changes of a session that captures -/

section

variable {s : Session} (hs : s.capturing = true)
include hs

/-- What a capturing session shows becomes its latest item. -/
theorem state_emit (stream : Stream) (text : String) :
    (s.emit stream text).state = { s with transcript := s.transcript.push text } := by
  rw [emit, if_pos hs]

/-- A command makes one change at most, and stopping is the change of an idle session. -/
theorem change_perform (hidle : s.phase = .idle) (command : Command) :
    s.Change (s.perform command).state := by
  cases command with
  | read target members => exact .register target _
  | print register =>
    show s.Change (s.emit _ _).state
    rw [state_emit hs]
    exact .item _
  | combine op lhs rhs dest => exact .register dest _
  | stop => exact .stop hidle

/-- A refused line that is fed adds its report. -/
theorem state_feed_of_error {line : String} {refusal : Refusal}
    (h : (s.executeLine line).answer = .error refusal) :
    (s.feed line).state =
      { s with transcript := s.transcript.push ("Error: " ++ refusal.message) } := by
  rw [feed_of_error h]
  show ((s.executeLine line).state.report refusal).state = _
  rw [state_executeLine_of_error h]
  exact state_emit hs _ _

/-- **A line makes one change at most.** -/
theorem change_feed (line : String) : s.Change (s.feed line).state := by
  rcases executeLine_cases s line with
    ⟨_, hrefused, -⟩ | ⟨-, hok, hstate⟩ | ⟨command, -, hidle, hok, hstate⟩
  · rw [state_feed_of_error hs hrefused]
    exact .item _
  · rw [feed_of_ok hok, hstate]
    exact .nothing
  · rw [feed_of_ok hok, hstate]
    exact change_perform hs hidle command

end

/-- A change leaves the items of the transcript where they are. -/
theorem Change.transcript_prefix {s t : Session} (h : s.Change t) :
    s.transcript.toList <+: t.transcript.toList := by
  cases h with
  | nothing => exact List.prefix_refl _
  | item text =>
    show s.transcript.toList <+: (s.transcript.push text).toList
    rw [Array.toList_push]
    exact List.prefix_append _ _
  | register r contents => exact List.prefix_refl _
  | stop => exact List.prefix_refl _

/-! ## The registers that are left alone -/

/-- A command leaves all registers alone but the one that it writes. -/
theorem get_registers_perform (s : Session) {command : Command} {r : Register}
    (h : command.written? ≠ some r) :
    (s.perform command).state.registers.get r = s.registers.get r := by
  have hset : ∀ (q : Register) (contents : MemberSet), some q ≠ some r →
      (s.registers.set q contents).get r = s.registers.get r := by
    intro q contents hq
    rw [Registers.get_set, if_neg fun hr => hq (congrArg some hr.symm)]
  cases command with
  | read target members => exact hset target _ h
  | print register =>
    show (s.emit _ _).state.registers.get r = s.registers.get r
    rw [registers_emit]
  | combine op lhs rhs dest => exact hset dest _ h
  | stop => rfl

/-- A line leaves every register alone that its command does not write. -/
theorem get_registers_feed (s : Session) {line : String} {r : Register}
    (h : ∀ command, Command.ofLine line.toList = .ok (some command) →
      command.written? ≠ some r) :
    (s.feed line).state.registers.get r = s.registers.get r := by
  rcases executeLine_cases s line with
    ⟨_, hrefused, hstate⟩ | ⟨-, hok, hstate⟩ | ⟨command, hline, -, hok, hstate⟩
  · rw [feed_of_error hrefused, hstate]
    show (s.emit _ _).state.registers.get r = s.registers.get r
    rw [registers_emit]
  · rw [feed_of_ok hok, hstate]
  · rw [feed_of_ok hok, hstate]
    exact get_registers_perform s (h command hline)

/-- **Rejections are atomic, and a line has one effect at most.** In every state of a session that
captures, a line that is refused changes nothing when it is executed, and adds its report and
nothing else when it is fed. Whatever line is fed, the session makes one `Change` or none: the items
shown before stay, and only the register that the line's command writes can change. -/
theorem feed_changes_at_most_one_thing (s : Session) (hs : s.capturing = true) (line : String) :
    (∀ refusal, (s.executeLine line).answer = .error refusal →
      (s.executeLine line).state = s ∧
      (s.feed line).state =
        { s with transcript := s.transcript.push ("Error: " ++ refusal.message) }) ∧
    s.Change (s.feed line).state ∧
    s.transcript.toList <+: (s.feed line).state.transcript.toList ∧
    ∀ r, (∀ command, Command.ofLine line.toList = .ok (some command) →
        command.written? ≠ some r) →
      (s.feed line).state.registers.get r = s.registers.get r := by
  have hchange := change_feed hs line
  refine ⟨?_, hchange, hchange.transcript_prefix, ?_⟩
  · intro refusal h
    exact ⟨state_executeLine_of_error h, state_feed_of_error hs h⟩
  · intro r h
    exact get_registers_feed s h

/-- A number that is no member is refused, and the register that it was meant for is kept, as are
the others. -/
theorem feed_changes_at_most_one_thing_out_of_range :
    let s := (captured.feed "read_set SETA, 1, -1").state
    s.capturing = true ∧
    (s.executeLine "read_set SETA, 200, -1").answer = .error (.rejected .outOfRange) ∧
    (s.executeLine "read_set SETA, 200, -1").state = s ∧
    (s.feed "read_set SETA, 200, -1").state.transcript =
      s.transcript.push "Error: Set members should only be integers in the range 0-127." ∧
    (s.feed "read_set SETA, 200, -1").state.registers.get .a = s.registers.get .a := by
  intro s
  have hs : s.capturing = true := by decide +kernel
  have hrefused : (s.executeLine "read_set SETA, 200, -1").answer =
      .error (.rejected .outOfRange) := by
    decide +kernel
  have hline : Command.ofLine "read_set SETA, 200, -1".toList = .error .outOfRange := by
    decide +kernel
  obtain ⟨hatomic, -, -, hframe⟩ := feed_changes_at_most_one_thing s hs "read_set SETA, 200, -1"
  obtain ⟨hstate, hfed⟩ := hatomic _ hrefused
  refine ⟨hs, hrefused, hstate, ?_, hframe .a ?_⟩
  · rw [hfed]
    rfl
  · intro command h
    rw [hline] at h
    cases h

end Session

end SetCalculator
