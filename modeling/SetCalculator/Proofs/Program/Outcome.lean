import SetCalculator.Program
import SetCalculator.Proofs.Output.Printed

/-!
# What the two modes of the program print

With options that ask for a script, a run prints what the script prints and then the report of its
failure, if it failed. With options that ask for a prompt without a history, it prints the banner if
that is wanted, what the prompt prints, and the report. With the log switched off this is all that
the streams show (`outcomeText_of_nothing`).
-/

namespace SetCalculator.Program

open Log

variable {given : Invocation} {options : Options}

/-- With the log off, a stream holds what is printed to it. -/
theorem outcomeText_of_nothing (h : (filter given).selection = .nothing) (outcome : Outcome)
    (stream : Stream) :
    outcomeText given outcome stream = textOn stream (printed outcome.events) :=
  written_of_nothing h stream outcome.events

/-- What a script or a prompt prints, up to the report of its failure. -/
def printedBy {σ : Type} (done : Step σ (Except Failure Unit)) : List (Stream × String) :=
  printed done.events ++ printed (ending done.answer).2

/-- What was printed before a step stands before what the step prints. -/
theorem printedBy_after {σ : Type} (done : Step σ (Except Failure Unit)) (events : List Event) :
    printedBy (done.after events) = printed events ++ printedBy done := by
  rw [printedBy, printedBy, Step.after, printed_append, List.append_assoc]

/-- Steps that print the same and end in the same way leave the same on the streams. -/
theorem printedBy_congr {σ τ : Type} {a : Step σ (Except Failure Unit)}
    {b : Step τ (Except Failure Unit)} (hanswer : a.answer = b.answer)
    (hevents : printed a.events = printed b.events) : printedBy a = printedBy b := by
  rw [printedBy, printedBy, hanswer, hevents]

/-- A run with a script prints what the script prints and ends with its status. -/
theorem runWith_script (reader : LineReader)
    (hparse : CommandLine.parse given.arguments = .ok options) {path : String}
    (hscript : options.script = some path) {contents : List UInt8}
    (hfile : given.directory.read path = .ok (.file contents)) :
    let done := Script.runLines options.strict .printing (inputLines contents)
    printed (runWith reader given).events = printedBy done ∧
    (runWith reader given).status = (ending done.answer).1 := by
  intro done
  have hrun : runWith reader given =
      ⟨(ending done.answer).1,
        .logged (filter given).opening ::
          (.logged ⟨.info, .script, "running",
            [("path", path), ("strict", toString options.strict)]⟩ :: done.events ++
              (ending done.answer).2),
        given.directory⟩ := by
    simp only [runWith, hparse, runOptions, hscript, runScript, hfile]
    rfl
  rw [hrun]
  exact ⟨printed_append _ _, rfl⟩

/-- A run with a prompt that keeps no history prints the banner, unless it is quiet, and then what
the prompt prints; it ends with its status and leaves the directory alone. -/
theorem runWith_prompt (reader : LineReader)
    (hparse : CommandLine.parse given.arguments = .ok options)
    (hscript : options.script = none) (hhistory : options.history = none) :
    let done := Prompt.run options.echo ⟨.printing, .empty⟩ (reader given.input)
    printed (runWith reader given).events =
      (if options.quiet then [] else [(.output, banner)]) ++ printedBy done ∧
    (runWith reader given).status = (ending done.answer).1 ∧
    (runWith reader given).directory = given.directory := by
  intro done
  have hrun : runWith reader given =
      ⟨(ending done.answer).1,
        .logged (filter given).opening ::
          ((if !options.quiet then [.printed .output banner] else []) ++ done.events ++ [] ++
            (ending done.answer).2),
        given.directory⟩ := by
    simp only [runWith, hparse, runOptions, hscript, runPrompt, hhistory]
    rfl
  rw [hrun]
  refine ⟨?_, rfl, rfl⟩
  cases options.quiet
  · simp [printedBy]
  · simp [printedBy]

end SetCalculator.Program
