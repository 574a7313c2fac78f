import SetCalculator.Command
import SetCalculator.Line.Trace
import SetCalculator.MemberSet.Rendering
import SetCalculator.Output

/-!
# Sessions

A session owns the registers and executes commands until it is stopped. A stopped session still
judges lines, but refuses every command. Refused or rejected, a line changes nothing.

A session prints what it has to say, or it captures it: then nothing is printed and the items are
kept in order, one for each line or set, whichever stream it would have gone to.
-/

namespace SetCalculator

open Log

/-- Whether a session still executes commands. -/
inductive Phase where
  | idle
  | terminated
  deriving DecidableEq, Repr

/-- Whether the next line is wanted. -/
inductive Flow where
  | continue
  | stop
  deriving DecidableEq, Repr

/-- Why a line was not executed. -/
inductive Refusal where
  /-- The line is no command. -/
  | rejected (rejection : Rejection)
  /-- The session was stopped before. -/
  | terminated
  deriving DecidableEq, Repr

/-- The text of a refusal. -/
def Refusal.message : Refusal → String
  | rejected rejection => rejection.message
  | terminated => "The calculator has already stopped."

/-- Whether the next line is wanted after a line that was fed and refused. -/
def Refusal.flow : Refusal → Flow
  | rejected _ => .continue
  | terminated => .stop

/-- The state of a calculator. -/
structure Session where
  registers : Registers
  phase : Phase
  /-- Whether items are captured instead of printed. -/
  capturing : Bool
  /-- The captured items. -/
  transcript : Array String
  deriving DecidableEq

namespace Session

/-- A new session that prints. -/
def printing : Session := ⟨.empty, .idle, false, #[]⟩

/-- A new session that captures. -/
def captured : Session := ⟨.empty, .idle, true, #[]⟩

instance : Inhabited Session := ⟨printing⟩

/-- Forgets the captured items. -/
def clearTranscript (s : Session) : Session := { s with transcript := #[] }

/-- Prints or captures one item. -/
def emit (s : Session) (stream : Stream) (text : String) : Step Session Unit :=
  if s.capturing then ⟨(), { s with transcript := s.transcript.push text }, []⟩
  else ⟨(), s, [.printed stream text]⟩

/-- Shows a line that was received. -/
def echo (s : Session) (line : String) : Step Session Unit :=
  s.emit .output ("> " ++ line)

/-- Shows why a line was not executed. -/
def report (s : Session) (refusal : Refusal) : Step Session Unit :=
  s.emit .diagnostics ("Error: " ++ refusal.message)

/-- Executes a command in a session that was not stopped. -/
def perform (s : Session) : Command → Step Session Flow
  | .read target members =>
    ⟨.continue, { s with registers := s.registers.read target members },
      [.logged ⟨.debug, .session, "read",
        [("register", target.name), ("count", toString members.length)]⟩]⟩
  | .print register =>
    let shown := s.emit .output (s.registers.get register).render
    ⟨.continue, shown.state, shown.events⟩
  | .combine op lhs rhs dest =>
    ⟨.continue, { s with registers := s.registers.combine op lhs rhs dest }, []⟩
  | .stop =>
    ⟨.stop, { s with phase := .terminated }, [.logged ⟨.info, .session, "stopped", []⟩]⟩

/-- Executes a command, or refuses it if the session was stopped. -/
def execute (s : Session) (command : Command) : Step Session (Except Refusal Flow) :=
  match s.phase with
  | .terminated => ⟨.error .terminated, s, []⟩
  | .idle =>
    let done := s.perform command
    ⟨.ok done.answer, done.state,
      .logged ⟨.debug, .session, "execute", [("operation", command.keyword.text)]⟩ :: done.events⟩

/-- Judges a line and executes its command; a blank line asks for nothing. -/
def executeLine (s : Session) (line : String) : Step Session (Except Refusal Flow) :=
  let records := (readingRecords line.toList).map Event.logged
  match Command.ofLine line.toList with
  | .error rejection => ⟨.error (.rejected rejection), s, records⟩
  | .ok none => ⟨.ok .continue, s, records⟩
  | .ok (some command) =>
    let done := s.execute command
    ⟨done.answer, done.state, records ++ done.events⟩

/-- Executes a line and reports it if it was not executed; a stopped session wants no more. -/
def feed (s : Session) (line : String) : Step Session Flow :=
  let done := s.executeLine line
  match done.answer with
  | .ok flow => ⟨flow, done.state, done.events⟩
  | .error refusal =>
    let reported := done.state.report refusal
    ⟨match refusal with
      | .terminated => .stop
      | .rejected _ => .continue,
      reported.state, done.events ++ reported.events⟩

/-! ## What steps leave alone -/

@[simp] theorem registers_emit (s : Session) (stream : Stream) (text : String) :
    (s.emit stream text).state.registers = s.registers := by
  unfold emit
  split <;> rfl

@[simp] theorem phase_emit (s : Session) (stream : Stream) (text : String) :
    (s.emit stream text).state.phase = s.phase := by
  unfold emit
  split <;> rfl

@[simp] theorem capturing_emit (s : Session) (stream : Stream) (text : String) :
    (s.emit stream text).state.capturing = s.capturing := by
  unfold emit
  split <;> rfl

@[simp] theorem execute_terminated {s : Session} (h : s.phase = .terminated) (command : Command) :
    s.execute command = ⟨.error .terminated, s, []⟩ := by
  simp [execute, h]

/-- An idle session performs a command and logs it before. -/
theorem execute_of_idle {s : Session} (h : s.phase = .idle) (command : Command) :
    s.execute command =
      ⟨.ok (s.perform command).answer, (s.perform command).state,
        .logged ⟨.debug, .session, "execute", [("operation", command.keyword.text)]⟩ ::
          (s.perform command).events⟩ := by
  simp [execute, h]

/-- No command but `stop` changes the phase. -/
theorem phase_perform_of_ne_stop (s : Session) {command : Command} (h : command ≠ .stop) :
    (s.perform command).state.phase = s.phase := by
  cases command with
  | read target members => rfl
  | print register => exact phase_emit s _ _
  | combine op lhs rhs dest => rfl
  | stop => exact absurd rfl h

/-! ## One line, case by case -/

section

variable {s : Session} {line : String}

/-- A line that is no command is refused and changes nothing; what was read of it is logged. -/
theorem executeLine_of_rejected {rejection : Rejection}
    (h : Command.ofLine line.toList = .error rejection) :
    s.executeLine line =
      ⟨.error (.rejected rejection), s, (readingRecords line.toList).map .logged⟩ := by
  simp [executeLine, h]

/-- Executing a blank line changes nothing. -/
theorem executeLine_of_blank (h : Command.ofLine line.toList = .ok none) :
    s.executeLine line = ⟨.ok .continue, s, (readingRecords line.toList).map .logged⟩ := by
  simp [executeLine, h]

/-- A session that has stopped refuses every command. -/
theorem executeLine_of_terminated {command : Command} (hs : s.phase = .terminated)
    (h : Command.ofLine line.toList = .ok (some command)) :
    s.executeLine line = ⟨.error .terminated, s, (readingRecords line.toList).map .logged⟩ := by
  simp [executeLine, h, hs]

/-- An idle session performs the command of a line, after the records of reading it and of the
command. -/
theorem executeLine_of_idle {command : Command} (hs : s.phase = .idle)
    (h : Command.ofLine line.toList = .ok (some command)) :
    s.executeLine line =
      ⟨.ok (s.perform command).answer, (s.perform command).state,
        (readingRecords line.toList).map .logged ++
          .logged ⟨.debug, .session, "execute", [("operation", command.keyword.text)]⟩ ::
            (s.perform command).events⟩ := by
  simp [executeLine, execute, h, hs]

/-- A line that is executed is fed without a report. -/
theorem feed_of_ok {flow : Flow} (h : (s.executeLine line).answer = .ok flow) :
    s.feed line = ⟨flow, (s.executeLine line).state, (s.executeLine line).events⟩ := by
  simp only [feed, h]

/-- A line that is not executed is reported. -/
theorem feed_of_error {refusal : Refusal} (h : (s.executeLine line).answer = .error refusal) :
    s.feed line =
      ⟨refusal.flow, ((s.executeLine line).state.report refusal).state,
        (s.executeLine line).events ++ ((s.executeLine line).state.report refusal).events⟩ := by
  cases refusal
  · simp only [feed, h, Refusal.flow]
  · simp only [feed, h, Refusal.flow]

/-- Feeding a line that is no command reports why, and the session goes on. -/
theorem feed_of_rejected {rejection : Rejection}
    (h : Command.ofLine line.toList = .error rejection) :
    s.feed line =
      ⟨.continue, (s.report (.rejected rejection)).state,
        (readingRecords line.toList).map .logged ++ (s.report (.rejected rejection)).events⟩ := by
  have hdone := executeLine_of_rejected (s := s) h
  rw [feed_of_error (by rw [hdone]), hdone]
  rfl

/-- Feeding a blank line changes nothing and reports nothing. -/
theorem feed_of_blank (h : Command.ofLine line.toList = .ok none) :
    s.feed line = ⟨.continue, s, (readingRecords line.toList).map .logged⟩ := by
  have hdone := executeLine_of_blank (s := s) h
  rw [feed_of_ok (by rw [hdone]), hdone]

/-- Feeding a command to an idle session performs it, as executing the line does. -/
theorem feed_of_idle {command : Command} (hs : s.phase = .idle)
    (h : Command.ofLine line.toList = .ok (some command)) :
    s.feed line =
      ⟨(s.perform command).answer, (s.perform command).state,
        (readingRecords line.toList).map .logged ++
          .logged ⟨.debug, .session, "execute", [("operation", command.keyword.text)]⟩ ::
            (s.perform command).events⟩ := by
  have hdone := executeLine_of_idle hs h
  rw [feed_of_ok (by rw [hdone]), hdone]

/-- **All that executing a line can do.** -/
theorem executeLine_cases (s : Session) (line : String) :
    (∃ refusal, (s.executeLine line).answer = .error refusal ∧ (s.executeLine line).state = s) ∨
    (Command.ofLine line.toList = .ok none ∧ (s.executeLine line).answer = .ok .continue ∧
      (s.executeLine line).state = s) ∨
    ∃ command, Command.ofLine line.toList = .ok (some command) ∧ s.phase = .idle ∧
      (s.executeLine line).answer = .ok (s.perform command).answer ∧
      (s.executeLine line).state = (s.perform command).state := by
  cases hline : Command.ofLine line.toList with
  | error rejection =>
    rw [executeLine_of_rejected hline]
    exact .inl ⟨_, rfl, rfl⟩
  | ok asked =>
    cases asked with
    | none =>
      rw [executeLine_of_blank hline]
      exact .inr (.inl ⟨rfl, rfl, rfl⟩)
    | some command =>
      cases hphase : s.phase with
      | terminated =>
        rw [executeLine_of_terminated hphase hline]
        exact .inl ⟨_, rfl, rfl⟩
      | idle =>
        rw [executeLine_of_idle hphase hline]
        exact .inr (.inr ⟨command, rfl, rfl, rfl, rfl⟩)

end

end Session

end SetCalculator
