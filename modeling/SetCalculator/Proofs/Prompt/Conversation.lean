import SetCalculator.Proofs.Program.Outcome
import SetCalculator.Proofs.Session.Feed
import SetCalculator.Proofs.Session.Refinement
import SetCalculator.Proofs.Text.PhysicalLine

/-!
# A conversation at the prompt

What a prompt reads is settled by its input alone: `Conversation` says which lines are read, with
which status the program ends and what ends the diagnostics. What is shown in return is settled by
these lines: the output by the calculator on finite sets, which takes them one after the other
(`outputText`), and the diagnostics by the lines that are no commands (`complaints`).
`run_shows_its_conversation` says that a run of the program shows just that, from its banner to its
exit status.

The step is `take_line`, which holds for every session that is idle. In the run the session prints,
so it does not refine the calculator itself; a session that captures and agrees with it does, and is
carried along (`run_converses`).
-/

namespace SetCalculator

open Text Log

/-! ## What is read -/

/-- `Conversation pieces lines status fatal`: of an input with these pieces the prompt reads these
lines; then the program ends with this status, and the diagnostics with this text. -/
inductive Conversation : List (List UInt8) → List String → Nat → String → Prop
  /-- The input ends before a line asks to stop. -/
  | ended : Conversation [] [] 1 "Error: Missing stop command\n"
  /-- Bytes that are no text end the conversation. -/
  | notText {piece : List UInt8} {rest : List (List UInt8)} : decode? piece = none →
    Conversation (piece :: rest) [] 1
      ("Error: Failed to read input\n\nCaused by:\n" ++
        "    0: stream did not contain valid UTF-8\n" ++
        "    1: stream did not contain valid UTF-8\n")
  /-- A line that asks to stop is the last one that is read. -/
  | stop {piece : List UInt8} {rest : List (List UInt8)} {line : String} :
    decode? piece = some line → AsksToStop line → Conversation (piece :: rest) [line] 0 ""
  /-- After any other line the conversation goes on. -/
  | next {piece : List UInt8} {rest : List (List UInt8)} {line : String} {lines : List String}
    {status : Nat} {fatal : String} : decode? piece = some line → ¬ AsksToStop line →
    Conversation rest lines status fatal →
    Conversation (piece :: rest) (line :: lines) status fatal

/-- A conversation ends well exactly if a line was read that asks to stop. -/
theorem Conversation.status_eq_zero_iff {pieces : List (List UInt8)} {lines : List String}
    {status : Nat} {fatal : String} (h : Conversation pieces lines status fatal) :
    status = 0 ↔ ∃ line ∈ lines, AsksToStop line := by
  induction h with
  | ended => simp
  | notText => simp
  | stop _ hstop => simp [hstop]
  | next _ hstop _ ih => simp [hstop, ih]

/-- An input has one conversation. -/
theorem Conversation.unique {pieces : List (List UInt8)} {lines lines' : List String}
    {status status' : Nat} {fatal fatal' : String} (h : Conversation pieces lines status fatal)
    (h' : Conversation pieces lines' status' fatal') :
    lines = lines' ∧ status = status' ∧ fatal = fatal' := by
  induction h generalizing lines' with
  | ended =>
    cases h'
    exact ⟨rfl, rfl, rfl⟩
  | notText hdecode =>
    cases h' with
    | notText => exact ⟨rfl, rfl, rfl⟩
    | stop hdecode' => cases hdecode.symm.trans hdecode'
    | next hdecode' => cases hdecode.symm.trans hdecode'
  | stop hdecode hstop =>
    cases h' with
    | notText hdecode' => cases hdecode.symm.trans hdecode'
    | stop hdecode' =>
      obtain rfl := Option.some_inj.1 (hdecode.symm.trans hdecode')
      exact ⟨rfl, rfl, rfl⟩
    | next hdecode' hgoes =>
      obtain rfl := Option.some_inj.1 (hdecode.symm.trans hdecode')
      exact absurd hstop hgoes
  | next hdecode hgoes _ ih =>
    cases h' with
    | notText hdecode' => cases hdecode.symm.trans hdecode'
    | stop hdecode' hstop =>
      obtain rfl := Option.some_inj.1 (hdecode.symm.trans hdecode')
      exact absurd hstop hgoes
    | next hdecode' _ hrest =>
      obtain rfl := Option.some_inj.1 (hdecode.symm.trans hdecode')
      obtain ⟨rfl, rfl, rfl⟩ := ih hrest
      exact ⟨rfl, rfl, rfl⟩

/-! ## What is shown -/

/-- What a calculator shows in return for a line: the set that the line asks for, if it does. -/
def Calculator.answerText (c : Calculator) (line : String) : String :=
  match Command.ofLine line.toList with
  | .ok (some (.print register)) => setText (c.sets register) ++ "\n"
  | _ => ""

/-- The output of a conversation. Each line is echoed if that is wanted, and then answered by the
calculator that has taken the lines before it. -/
def outputText (echoing : Bool) (c : Calculator) : List String → String
  | [] => ""
  | line :: lines =>
    (if echoing then "> " ++ line ++ "\n" else "") ++ c.answerText line ++
      outputText echoing (c.step line).2 lines

/-- The complaint about a line, if it is rejected. -/
def complaint (line : String) : String :=
  match Command.ofLine line.toList with
  | .error rejection => "Error: " ++ rejection.message ++ "\n"
  | .ok _ => ""

/-- The complaints about the lines of a conversation. -/
def complaints (lines : List String) : String := String.join (lines.map complaint)

/-- Complaints come in the order of the lines. -/
theorem complaints_cons (line : String) (lines : List String) :
    complaints (line :: lines) = complaint line ++ complaints lines :=
  String.join_cons

/-- A session that holds the calculator's sets shows what the calculator would, and complains about
the lines that are rejected. -/
theorem textOn_shown {s : Session} {c : Calculator}
    (hsets : ∀ r, (s.registers.get r).toFinset = c.sets r) (line : String) :
    textOn .output (s.shown line) = c.answerText line ∧
      textOn .diagnostics (s.shown line) = complaint line := by
  rw [Session.shown, Calculator.answerText, complaint]
  cases Command.ofLine line.toList with
  | error rejection => exact ⟨by simp, by simp⟩
  | ok asked =>
    cases asked with
    | none => exact ⟨rfl, rfl⟩
    | some command =>
      cases command with
      | read target members => exact ⟨rfl, rfl⟩
      | print register => exact ⟨by simp [MemberSet.render_eq_setText, hsets register], by simp⟩
      | combine op lhs rhs dest => exact ⟨rfl, rfl⟩
      | stop => exact ⟨rfl, rfl⟩

namespace Prompt

/-- **One line.** It is echoed if that is wanted, and fed; only a line that asks to stop ends the
prompt. -/
theorem take_line {s : Session} (hs : s.phase = .idle) (h : History) (echoing : Bool)
    (line : String) :
    let echoed : Step Session Unit := if echoing then s.echo line else ⟨(), s, []⟩
    let fed := echoed.state.feed line
    let taken := take echoing ⟨s, h⟩ (.ok line)
    taken.state = ⟨fed.state, remember h line⟩ ∧
    printed taken.events = printed echoed.events ++ printed fed.events ∧
    (AsksToStop line → taken.answer = some (.ok ())) ∧
    (¬ AsksToStop line → taken.answer = none) := by
  intro echoed fed taken
  have hidle : echoed.state.phase = .idle := by
    cases echoing with
    | true => exact (Session.phase_emit s _ _).trans hs
    | false => exact hs
  have hstop : fed.answer = .stop ↔ AsksToStop line := Session.answer_feed_eq_stop_iff hidle line
  have haccept : accept echoing ⟨s, h⟩ line =
      ⟨fed.answer, ⟨fed.state, remember h line⟩, echoed.events ++ fed.events⟩ := rfl
  cases hanswer : fed.answer with
  | stop =>
    have htaken : taken =
        ⟨some (.ok ()), ⟨fed.state, remember h line⟩, echoed.events ++ fed.events⟩ := by
      simp only [taken, take, haccept, hanswer]
    rw [htaken]
    exact ⟨rfl, printed_append _ _, fun _ => rfl, fun hnot => absurd (hstop.1 hanswer) hnot⟩
  | «continue» =>
    have htaken : taken = ⟨none, ⟨fed.state, remember h line⟩, echoed.events ++ fed.events⟩ := by
      simp only [taken, take, haccept, hanswer]
    have hnot : ¬ AsksToStop line := by
      intro hasks
      cases hanswer.symm.trans (hstop.2 hasks)
    rw [htaken]
    exact ⟨rfl, printed_append _ _, fun hasks => absurd hasks hnot, fun _ => rfl⟩

/-- Bytes that are no text end the prompt. -/
theorem run_of_notText {piece : List UInt8} (hdecode : decode? piece = none) (echoing : Bool)
    (p : Prompt) (pieces : List (List UInt8)) :
    run echoing p ((piece :: pieces).map InputLine.ofBytes) =
      ⟨.error (.unreadableInput .notText), p, []⟩ := by
  simp only [List.map_cons, InputLine.ofBytes, hdecode, run, take]

section

variable {s : Session} (hs : s.phase = .idle) (h : History) (echoing : Bool) {piece : List UInt8}
  {line : String} (hdecode : decode? piece = some line) (pieces : List (List UInt8))
include hs hdecode

/-- A line that asks to stop ends the prompt well. -/
theorem run_of_stop (hasks : AsksToStop line) :
    run echoing ⟨s, h⟩ ((piece :: pieces).map InputLine.ofBytes) =
      ⟨.ok (), (take echoing ⟨s, h⟩ (.ok line)).state,
        (take echoing ⟨s, h⟩ (.ok line)).events⟩ := by
  obtain ⟨-, -, hstop, -⟩ := take_line hs h echoing line
  simp only [List.map_cons, InputLine.ofBytes, hdecode, run, hstop hasks]

/-- After a line that does not ask to stop the prompt goes on. -/
theorem run_of_not_stop (hasks : ¬ AsksToStop line) :
    run echoing ⟨s, h⟩ ((piece :: pieces).map InputLine.ofBytes) =
      (run echoing (take echoing ⟨s, h⟩ (.ok line)).state (pieces.map InputLine.ofBytes)).after
        (take echoing ⟨s, h⟩ (.ok line)).events := by
  obtain ⟨-, -, -, hgoes⟩ := take_line hs h echoing line
  simp only [List.map_cons, InputLine.ofBytes, hdecode, run, hgoes hasks]

end

/-- An echo is a line of the output. -/
theorem textOn_echoed {s : Session} (hprints : s.capturing = false) (echoing : Bool)
    (line : String) :
    let echoed : Step Session Unit := if echoing then s.echo line else ⟨(), s, []⟩
    echoed.state = s ∧
    textOn .output (printed echoed.events) = (if echoing then "> " ++ line ++ "\n" else "") ∧
    textOn .diagnostics (printed echoed.events) = "" := by
  intro echoed
  cases echoing with
  | true =>
    refine ⟨Session.state_emit_of_printing hprints _ _, ?_, ?_⟩
    · simp [echoed, Session.echo, Session.printed_emit, hprints]
    · simp [echoed, Session.echo, Session.printed_emit, hprints]
  | false => exact ⟨rfl, rfl, rfl⟩

/-- **What one line shows** in a session that prints and holds the sets of the calculator. -/
theorem textOn_take {s : Session} {c : Calculator} (hprints : s.capturing = false)
    (hs : s.phase = .idle) (hsets : ∀ r, (s.registers.get r).toFinset = c.sets r) (h : History)
    (echoing : Bool) (line : String) :
    let taken := take echoing ⟨s, h⟩ (.ok line)
    taken.state = ⟨(s.feed line).state, remember h line⟩ ∧
    textOn .output (printed taken.events) =
      (if echoing then "> " ++ line ++ "\n" else "") ++ c.answerText line ∧
    textOn .diagnostics (printed taken.events) = complaint line := by
  intro taken
  obtain ⟨hsame, hechoed, hsilent⟩ := textOn_echoed hprints echoing line
  obtain ⟨hstate, hprinted, -, -⟩ := take_line hs h echoing line
  rw [hsame] at hstate hprinted
  rw [Session.printed_feed hs hprints] at hprinted
  obtain ⟨hanswer, hcomplaint⟩ := textOn_shown hsets line
  refine ⟨hstate, ?_, ?_⟩
  · rw [hprinted, textOn_append, hechoed, hanswer]
  · rw [hprinted, textOn_append, hsilent, hcomplaint, String.empty_append]

/-- A failure with nothing before it prints its report. -/
theorem textOn_printedBy_failure (failure : Failure) (p : Prompt) :
    let done : Step Prompt (Except Failure Unit) := ⟨.error failure, p, []⟩
    textOn .output (Program.printedBy done) = "" ∧
      textOn .diagnostics (Program.printedBy done) = failure.report ++ "\n" :=
  ⟨by simp [Program.printedBy, Program.ending], by simp [Program.printedBy, Program.ending]⟩

/-- The report of a missing end, with the end of its line. -/
theorem report_missingStop :
    Failure.missingStop.report ++ "\n" = "Error: Missing stop command\n" := by
  decide +kernel

/-- The report of an input that is no text: the cause and its own cause have the same wording. -/
theorem report_notText : (Failure.unreadableInput .notText).report ++ "\n" =
    "Error: Failed to read input\n\nCaused by:\n" ++
      "    0: stream did not contain valid UTF-8\n" ++
      "    1: stream did not contain valid UTF-8\n" := by
  decide +kernel

/-- **The pieces one after the other.** The session `t` captures and refines the calculator; `s`
prints, and agrees with it. -/
theorem run_converses {s t : Session} {c : Calculator} (hprints : s.capturing = false)
    (hs : s.phase = .idle) (hagrees : s.Agrees t) (hrefines : t.Refines c) (h : History)
    (echoing : Bool) (pieces : List (List UInt8)) :
    ∃ lines status fatal, Conversation pieces lines status fatal ∧
      let done := run echoing ⟨s, h⟩ (pieces.map InputLine.ofBytes)
      textOn .output (Program.printedBy done) = outputText echoing c lines ∧
      textOn .diagnostics (Program.printedBy done) = complaints lines ++ fatal ∧
      (Program.ending done.answer).1 = status := by
  induction pieces generalizing s t c h with
  | nil =>
    obtain ⟨houtput, hdiagnostics⟩ := textOn_printedBy_failure .missingStop ⟨s, h⟩
    rw [report_missingStop] at hdiagnostics
    exact ⟨[], 1, _, .ended, houtput, hdiagnostics.trans String.empty_append.symm, rfl⟩
  | cons piece pieces ih =>
    cases hdecode : decode? piece with
    | none =>
      obtain ⟨houtput, hdiagnostics⟩ :=
        textOn_printedBy_failure (.unreadableInput .notText) ⟨s, h⟩
      rw [report_notText] at hdiagnostics
      rw [run_of_notText hdecode]
      exact ⟨[], 1, _, .notText hdecode, houtput, hdiagnostics.trans String.empty_append.symm, rfl⟩
    | some line =>
      have hsets : ∀ r, (s.registers.get r).toFinset = c.sets r := by
        intro r
        rw [hagrees.registers]
        exact hrefines.sets r
      obtain ⟨hstate, hshown, hcomplaint⟩ := textOn_take hprints hs hsets h echoing line
      by_cases hasks : AsksToStop line
      · rw [run_of_stop hs h echoing hdecode pieces hasks]
        refine ⟨[line], 0, "", .stop hdecode hasks, ?_, ?_, rfl⟩
        · simp [Program.printedBy, Program.ending, outputText, hshown]
        · simp [Program.printedBy, Program.ending, complaints, hcomplaint]
      · -- The line leaves both sessions idle, in agreement and with the sets of the calculator.
        obtain ⟨lines, status, fatal, hread, houtput, hdiagnostics, hstatus⟩ :=
          ih ((Session.capturing_feed s line).trans hprints) (Session.phase_feed hs hasks)
            (hagrees.feed line).2 (hrefines.feed line).2 (remember h line)
        rw [run_of_not_stop hs h echoing hdecode pieces hasks, hstate]
        refine ⟨line :: lines, status, fatal, .next hdecode hasks hread, ?_, ?_, hstatus⟩
        · rw [Program.printedBy_after, textOn_append, hshown, houtput]
          rfl
        · rw [Program.printedBy_after, textOn_append, hcomplaint, hdiagnostics, complaints_cons,
            String.append_assoc]

end Prompt

namespace Program

/-- **What a run at the prompt shows**, whatever the input is, as long as it does not edit its
lines: the banner unless it is not wanted, the lines of the conversation as they are echoed and
answered, the complaints about them, and what ended the conversation. The run succeeds exactly if a
line was read that asks to stop. The two switches may be given in every combination. -/
theorem run_shows_its_conversation :
    (∀ quiet echo : Bool,
      CommandLine.parse ((if quiet then ["--quiet"] else []) ++ if echo then ["--echo"] else []) =
        .ok ⟨none, false, quiet, echo, none⟩) ∧
    ∀ (reader : LineReader) (given : Invocation) (options : Options),
      reader.Plain → backspace ∉ given.input →
      CommandLine.parse given.arguments = .ok options →
      options.script = none → options.history = none →
      (filter given).selection = .nothing →
      let outcome := runWith reader given
      ∃ pieces lines status fatal,
        SplitsInto lineFeed carriageReturn given.input pieces ∧
        Conversation pieces lines status fatal ∧
        outcomeText given outcome .output =
          (if options.quiet then "" else banner ++ "\n") ++
            outputText options.echo .fresh lines ∧
        outcomeText given outcome .diagnostics = complaints lines ++ fatal ∧
        outcome.status = status ∧
        (status = 0 ↔ ∃ line ∈ lines, AsksToStop line) ∧
        outcome.directory = given.directory := by
  refine ⟨by decide +kernel, ?_⟩
  intro reader given options hplain hback hparse hscript hhistory hoff outcome
  obtain ⟨hprinted, hstatus, hdirectory⟩ :=
    runWith_prompt reader hparse hscript hhistory
  have hreads : reader given.input = (physicalLines given.input).map InputLine.ofBytes :=
    hplain given.input hback
  rw [hreads] at hprinted hstatus
  obtain ⟨lines, status, fatal, hread, houtput, hdiagnostics, hend⟩ :=
    Prompt.run_converses (s := .printing) (t := .captured) (c := .fresh) rfl rfl ⟨rfl, rfl⟩
      Session.refines_captured .empty options.echo (physicalLines given.input)
  refine ⟨physicalLines given.input, lines, status, fatal, splitsInto_iff.2 rfl, hread, ?_, ?_,
    hstatus.trans hend, hread.status_eq_zero_iff, hdirectory⟩
  · rw [outcomeText_of_nothing hoff, hprinted, textOn_append, houtput]
    cases options.quiet
    · simp
    · simp
  · rw [outcomeText_of_nothing hoff, hprinted, textOn_append, hdiagnostics]
    cases options.quiet
    · simp
    · simp

/-- A set is read and shown, a line is rejected, and the line after the stop is not read. -/
theorem run_shows_its_conversation_stop :
    let given : Invocation :=
      ⟨["--quiet", "--echo"],
        encode "read_set SETA, 3, -1\r\nprint_set SETA\n#\nstop\nprint_set SETA\n",
        ⟨[]⟩, none, none⟩
    let outcome := runWith inputLines given
    outcomeText given outcome .output =
      "> read_set SETA, 3, -1\n> print_set SETA\n\x7b3\x7d\n> #\n> stop\n" ∧
    outcomeText given outcome .diagnostics = "Error: Invalid operation.\n" ∧
    outcome.status = 0 ∧
    ∃ pieces lines status fatal,
      SplitsInto lineFeed carriageReturn given.input pieces ∧
      Conversation pieces lines status fatal ∧
      outcomeText given outcome .output = outputText true .fresh lines ∧
      outcomeText given outcome .diagnostics = complaints lines ++ fatal ∧
      (status = 0 ↔ ∃ line ∈ lines, AsksToStop line) := by
  intro given outcome
  obtain ⟨pieces, lines, status, fatal, hpieces, hread, houtput, hdiagnostics, -, hstop, -⟩ :=
    run_shows_its_conversation.2 inputLines given ⟨none, false, true, true, none⟩
      plain_inputLines (by decide +kernel) (by decide +kernel) rfl rfl rfl
  refine ⟨?_, ?_, ?_, pieces, lines, status, fatal, hpieces, hread,
    houtput.trans String.empty_append, hdiagnostics, hstop⟩
  · decide +kernel
  · decide +kernel
  · decide +kernel

end Program

end SetCalculator
