import SetCalculator.Proofs.Program.Arguments
import SetCalculator.Proofs.Program.Outcome
import SetCalculator.Proofs.Script.Calls

/-!
# What a run of a script writes, and what a session captures

Whoever runs a script sees two streams and a status; whoever embeds a session sees the items that it
captured. `printing_shows_what_is_captured` says that the two see the same: the output holds the
items that are no reports, the diagnostics hold the reports and then the failure that ended the
script, and the status tells whether there was one.

A run of a script starts from a session that prints and keeps nothing, so this is what
`Session.Mirrors` says of a whole script, with the items sorted by their streams.
-/

namespace SetCalculator.Program

open Text Log

/-- What is left to say of a script when it has ended: nothing, or the failure with its causes. -/
def fatalText : Except Failure Unit → String
  | .ok () => ""
  | .error failure => failure.report ++ "\n"

/-- A failure is printed to the diagnostics. -/
theorem textOn_ending (stream : Stream) (answer : Except Failure Unit) :
    textOn stream (printed (ending answer).2) =
      if stream = .diagnostics then fatalText answer else "" := by
  cases answer with
  | ok done => cases stream <;> rfl
  | error failure =>
    cases stream with
    | output => rfl
    | diagnostics => exact String.append_empty

/-- The status is 0 exactly if there was no failure, and otherwise 1. -/
theorem status_ending (answer : Except Failure Unit) :
    (answer = .ok () ↔ (ending answer).1 = 0) ∧ (answer ≠ .ok () → (ending answer).1 = 1) := by
  cases answer with
  | ok done => exact ⟨iff_of_true rfl rfl, fun h => absurd rfl h⟩
  | error failure => exact ⟨iff_of_false nofun nofun, fun _ => rfl⟩

/-- **A script of a session that prints**, against the same script of a session that captures. -/
theorem textOn_printedBy_runLines (strict : Bool) (lines : List InputLine) :
    let done := Script.runLines strict .captured lines
    let items := done.state.transcript.toList
    textOn .output (printedBy (Script.runLines strict .printing lines)) =
        linesText (items.filter fun item => ¬ IsReport item) ∧
      textOn .diagnostics (printedBy (Script.runLines strict .printing lines)) =
        linesText (items.filter fun item => IsReport item) ++ fatalText done.answer := by
  intro done items
  have hrun := Session.printing_mirrors_captured.runLines strict lines
  have hshown : (printed (Script.runLines strict .printing lines).events).map Prod.snd = items :=
    hrun.items.symm
  constructor
  · rw [printedBy, textOn_append, textOn_output_of_routed hrun.routed, textOn_ending, hshown,
      if_neg Stream.noConfusion, String.append_empty]
  · rw [printedBy, textOn_append, textOn_diagnostics_of_routed hrun.routed, textOn_ending, hshown,
      if_pos rfl, hrun.answer]

/-- **A run of a script writes what a session captures.** The arguments may be the path after
`--script`, with `--strict` or without it; a path that looks like an option is not taken for the
value. With the log off, the output of a run of any bytes as a script holds the items of a session
that captures, less the reports; the diagnostics hold the reports and then the failure, if there was
one; and the status is 0 if there was none, and else 1. Whatever calls a session gets, if it prints
it keeps no items, and its replies, its registers and its phase are those of a session that captures
them. -/
theorem printing_shows_what_is_captured :
    (∀ (strict : Bool) (path : String), path ≠ "" → (∀ c cs, path.toList ≠ '-' :: c :: cs) →
      CommandLine.parse (["--script", path] ++ if strict then ["--strict"] else []) =
        .ok ⟨some path, strict, false, false, none⟩) ∧
    (∀ (reader : LineReader) (given : Invocation) (options : Options) (path : String)
      (contents : List UInt8),
      CommandLine.parse given.arguments = .ok options → options.script = some path →
      given.directory.read path = .ok (.file contents) →
      (filter given).selection = .nothing →
      let run := runWith reader given
      let done := Script.runLines options.strict .captured (inputLines contents)
      let items := done.state.transcript.toList
      outcomeText given run .output = linesText (items.filter fun item => ¬ IsReport item) ∧
      outcomeText given run .diagnostics =
        linesText (items.filter fun item => IsReport item) ++ fatalText done.answer ∧
      (done.answer = .ok () ↔ run.status = 0) ∧ (done.answer ≠ .ok () → run.status = 1)) ∧
    ∀ calls : List Session.Call,
      let printed := Session.printing.callAll calls
      let captured := Session.captured.callAll calls
      printed.state.transcript = #[] ∧ printed.answer = captured.answer ∧
      printed.state.registers = captured.state.registers ∧
      printed.state.phase = captured.state.phase := by
  refine ⟨fun strict _ => CommandLine.parse_script_strict strict, ?_, ?_⟩
  · intro reader given options path contents hparse hscript hfile hoff run done items
    obtain ⟨hprinted, hstatus⟩ := runWith_script reader hparse hscript hfile
    have hanswer : (Script.runLines options.strict .printing (inputLines contents)).answer =
        done.answer :=
      (Session.printing_mirrors_captured.runLines _ _).answer
    obtain ⟨houtput, hdiagnostics⟩ :=
      textOn_printedBy_runLines options.strict (inputLines contents)
    refine ⟨?_, ?_, ?_⟩
    · rw [outcomeText_of_nothing hoff, hprinted]
      exact houtput
    · rw [outcomeText_of_nothing hoff, hprinted]
      exact hdiagnostics
    · rw [show run.status = _ from hstatus, hanswer]
      exact status_ending done.answer
  · intro calls printed captured
    obtain ⟨hreplies, hstate⟩ := Session.callAll_mirrors Session.printing_mirrors_captured calls
    exact ⟨hstate.keepsNothing, hreplies, hstate.agrees.registers, hstate.agrees.phase⟩

/-- A script that prints a set and is rejected once, until a line of it is no text. -/
theorem printing_shows_what_is_captured_unreadable :
    let contents := encode "read_set SETA, 7, -1\nprint_set SETA\nprint_set SETG\n" ++ [0xFF]
    let given : Invocation :=
      ⟨["--script", "sets.txt"], [], ⟨[("sets.txt", contents)]⟩, none, none⟩
    let run := runWith inputLines given
    let calls : List Session.Call :=
      [.echo "print_set SETA", .feed "print_set SETA", .runLines false (inputLines contents),
        .execute .stop, .feed "stop"]
    CommandLine.parse ["--script", "sets.txt"] = .ok ⟨some "sets.txt", false, false, false, none⟩ ∧
    outcomeText given run .output =
      "> read_set SETA, 7, -1\n> print_set SETA\n{7}\n> print_set SETG\n" ∧
    outcomeText given run .diagnostics =
      "Error: Invalid set name.\n" ++ "Error: Error reading line 4\n" ++
        "\nCaused by:\n    stream did not contain valid UTF-8\n" ∧
    run.status = 1 ∧
    (Session.printing.callAll calls).state.transcript = #[] ∧
    (Session.printing.callAll calls).state.phase = .terminated := by
  intro contents given run calls
  obtain ⟨harguments, hrun, hcalls⟩ := printing_shows_what_is_captured
  have hparse : CommandLine.parse ["--script", "sets.txt"] =
      .ok ⟨some "sets.txt", false, false, false, none⟩ := by
    apply harguments false "sets.txt" (by decide)
    intro c cs hdash
    cases (by decide : "sets.txt".toList.head? = some 's').symm.trans (congrArg List.head? hdash)
  obtain ⟨houtput, hdiagnostics, -, hfailed⟩ :=
    hrun inputLines given _ "sets.txt" contents hparse rfl rfl rfl
  obtain ⟨hkeeps, -, -, hphase⟩ := hcalls calls
  refine ⟨hparse, ?_, ?_, hfailed (by decide +kernel), hkeeps, ?_⟩
  · rw [houtput]
    decide +kernel
  · rw [hdiagnostics]
    decide +kernel
  · rw [hphase]
    decide +kernel

end SetCalculator.Program
