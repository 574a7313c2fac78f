import SetCalculator.CommandLine
import SetCalculator.Prompt
import SetCalculator.Script

/-!
# Runs of the program

A run is given its arguments, its standard input, the directory it starts in and the two settings
of the log. It leaves an exit status, what it did in order, and the directory. The log settings
choose which of the events are written and nothing else. The prompt gets its lines from a reader
(`runWith`); by itself, it takes the input as it is (`run`).
-/

namespace SetCalculator

open Log

/-- What a run is given. -/
structure Invocation where
  arguments : List String
  input : List UInt8
  directory : Directory
  /-- The setting that selects the components of the log. -/
  components : Option String
  /-- The setting that selects the level of the log. -/
  verbosity : Option String

/-- What a run leaves. -/
structure Outcome where
  status : Nat
  events : List Event
  directory : Directory
  deriving DecidableEq

namespace Program

/-- The status and the last event for the way in which a script or a prompt ended. -/
def ending : Except Failure Unit → Nat × List Event
  | .ok () => (0, [])
  | .error failure => (1, [.printed .diagnostics failure.report])

/-- Runs a script. -/
def runScript (strict : Bool) (path : String) (directory : Directory) : Outcome :=
  let done := Script.run strict .printing path (directory.read path)
  let (status, last) := ending done.answer
  ⟨status, done.events ++ last, directory⟩

/-- Writes the history to its file, if there is one and it is out of date. -/
def saveHistory (h : History) (file : Option String) (directory : Directory) :
    List Event × Directory :=
  match file with
  | none => ([], directory)
  | some path =>
    if h.needsSaving then
      match directory.write path (Text.encode h.fileText) with
      | .ok directory => ([], directory)
      | .error cause => ([.logged (Prompt.notSaved path cause)], directory)
    else ([], directory)

/-- Runs the prompt; the history is saved however the prompt ends. -/
def runPrompt (options : Options) (lines : List InputLine) (directory : Directory) : Outcome :=
  let saved := options.history.map fun path => (path, directory.read path)
  let started := Prompt.start .printing (!options.quiet) saved
  let done := Prompt.run options.echo started.state lines
  let (records, directory) := saveHistory done.state.history options.history directory
  let (status, last) := ending done.answer
  ⟨status, started.events ++ done.events ++ records ++ last, directory⟩

/-- The filter for the log of a run. -/
def filter (given : Invocation) : Filter := .ofSettings given.components given.verbosity

/-- Runs what the options ask for. -/
def runOptions (options : Options) (lines : List InputLine) (directory : Directory) : Outcome :=
  match options.script with
  | some path => runScript options.strict path directory
  | none => runPrompt options lines directory

/-- Runs the program with a reader for the prompt. Arguments that give no options end it with a
status alone. -/
def runWith (reader : LineReader) (given : Invocation) : Outcome :=
  let outcome : Outcome :=
    match CommandLine.parse given.arguments with
    | .error interruption => ⟨interruption.status, [], given.directory⟩
    | .ok options => runOptions options (reader given.input) given.directory
  { outcome with events := .logged (filter given).opening :: outcome.events }

/-- Runs the program. -/
def run (given : Invocation) : Outcome := runWith inputLines given

/-- What an outcome writes to a stream. -/
def outcomeText (given : Invocation) (outcome : Outcome) (stream : Stream) : String :=
  written (filter given) stream outcome.events

/-- What a run writes to a stream. -/
def streamText (given : Invocation) (stream : Stream) : String :=
  outcomeText given (run given) stream

end Program

end SetCalculator
