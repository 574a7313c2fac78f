import SetCalculator.Failure
import SetCalculator.Session

/-!
# Scripts

A script is a list of physical lines. Blank lines and comments are skipped; every other line is
echoed and executed, until one stops the session. A line that is not executed is reported, and ends
a strict script. Lines are numbered from 1, and the skipped ones count.
-/

namespace SetCalculator.Script

open Text Log

/-- Whether a script skips a line with this trimmed text. -/
def isSkipped (trimmed : List Char) : Bool := trimmed.isEmpty || trimmed.head? == some '#'

/-- Runs one line of text; an answer ends the script. -/
def runLine (strict : Bool) (number : Nat) (s : Session) (line : String) :
    Step Session (Option (Except Failure Unit)) :=
  let trimmed := trim line.toList
  if isSkipped trimmed then ⟨none, s, []⟩
  else
    let echoed := s.echo (String.ofList trimmed)
    let done := echoed.state.executeLine line
    match done.answer with
    | .ok .stop => ⟨some (.ok ()), done.state, echoed.events ++ done.events⟩
    | .ok .continue => ⟨none, done.state, echoed.events ++ done.events⟩
    | .error refusal =>
      let reported := done.state.report refusal
      let record : Record := ⟨.warn, .script, "rejected", [("line", toString number)]⟩
      ⟨if strict then some (.error (.abortedLine number)) else none, reported.state,
        echoed.events ++ done.events ++ .logged record :: reported.events⟩

/-- Takes one line of input; an answer ends the script. -/
def take (strict : Bool) (number : Nat) (s : Session) (input : InputLine) :
    Step Session (Option (Except Failure Unit)) :=
  match input with
  | .error cause => ⟨some (.error (.unreadableLine number cause)), s, []⟩
  | .ok line => runLine strict number s line

/-- Takes lines from the one with the given number on; the end of the input ends the script. -/
def runFrom (strict : Bool) : Nat → Session → List InputLine → Step Session (Except Failure Unit)
  | _, s, [] => ⟨.error .missingStop, s, []⟩
  | number, s, input :: inputs =>
    let taken := take strict number s input
    match taken.answer with
    | some result => ⟨result, taken.state, taken.events⟩
    | none => (runFrom strict (number + 1) taken.state inputs).after taken.events

/-- Runs a script from its first line. -/
def runLines (strict : Bool) (s : Session) (lines : List InputLine) :
    Step Session (Except Failure Unit) :=
  runFrom strict 1 s lines

/-- Runs the script at a path, given what opening it led to. -/
def run (strict : Bool) (s : Session) (path : String) (opened : Except SystemError Opened) :
    Step Session (Except Failure Unit) :=
  match opened with
  | .error cause => ⟨.error (.cannotOpen path cause), s, []⟩
  | .ok opened =>
    let record : Record :=
      ⟨.info, .script, "running", [("path", path), ("strict", toString strict)]⟩
    (runLines strict s opened.lines).after [.logged record]

end SetCalculator.Script
