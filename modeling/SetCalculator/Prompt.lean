import SetCalculator.History
import SetCalculator.Session

/-!
# The prompt

At the prompt lines are read and executed one by one until one of them stops the session. Each line
that is not blank is remembered in the history, whatever becomes of it. A prompt may begin with a
banner that lists the commands, and may echo the lines it reads.
-/

namespace SetCalculator

open Text Log

/-- The welcome: what the sets are, and how each command is written. -/
def banner : String :=
  let width := (Keyword.all.map fun k => k.usage.length).foldl max 0
  "Set calculator. Sets are SETA to SETF, members are 0-127.\nCommands:\n"
    ++ String.join (Keyword.all.map fun k =>
      "  " ++ k.usage ++ String.ofList (List.replicate (width - k.usage.length) ' ')
        ++ "  " ++ k.description ++ "\n")
    ++ "Enter stop to exit."

/-- What is shown on a terminal when a line is wanted. -/
def promptText : String := "setcalc> "

/-- How the lines at the prompt come out of an input. A reader may let the input edit its lines, as
a terminal does. -/
abbrev LineReader := List UInt8 → List InputLine

/-- The byte with which an input edits its lines. -/
def backspace : UInt8 := 0x08

/-- A reader that gives the physical lines of every input that does not edit them. -/
def LineReader.Plain (reader : LineReader) : Prop :=
  ∀ bytes, backspace ∉ bytes → reader bytes = inputLines bytes

/-- The reader of the physical lines takes every input as it is. -/
theorem plain_inputLines : LineReader.Plain inputLines := fun _ _ => rfl

/-- The state of a prompt. -/
structure Prompt where
  session : Session
  history : History
  deriving DecidableEq

namespace Prompt

/-- A prompt before its first line: the history is read if there is a file for it, and the banner
shown if it is wanted. -/
def start (s : Session) (withBanner : Bool)
    (saved : Option (String × Except SystemError Opened)) : Step Prompt Unit :=
  let shown := if withBanner then [Event.printed .output banner] else []
  match saved with
  | none => ⟨(), ⟨s, .empty⟩, shown⟩
  | some (path, opened) =>
    let loaded := History.load opened
    let missing : Record := ⟨.debug, .prompt, "no previous history", [("path", path)]⟩
    let records := loaded.records ++ if loaded.complete then [] else [missing]
    ⟨(), ⟨s, loaded.history⟩, records.map Event.logged ++ shown⟩

/-- The history after a line was read. -/
def remember (h : History) (line : String) : History :=
  if isBlankLine line.toList then h else h.add line

/-- Takes one line of text. -/
def accept (echoing : Bool) (p : Prompt) (line : String) : Step Prompt Flow :=
  let echoed : Step Session Unit :=
    if echoing then p.session.echo line else ⟨(), p.session, []⟩
  let fed := echoed.state.feed line
  ⟨fed.answer, ⟨fed.state, remember p.history line⟩, echoed.events ++ fed.events⟩

/-- Takes one line of input; an answer ends the prompt. -/
def take (echoing : Bool) (p : Prompt) (input : InputLine) :
    Step Prompt (Option (Except Failure Unit)) :=
  match input with
  | .error cause => ⟨some (.error (.unreadableInput cause)), p, []⟩
  | .ok line =>
    let accepted := accept echoing p line
    match accepted.answer with
    | .stop => ⟨some (.ok ()), accepted.state, accepted.events⟩
    | .continue => ⟨none, accepted.state, accepted.events⟩

/-- Takes lines until one of them ends the prompt; the end of the input does so too. -/
def run (echoing : Bool) : Prompt → List InputLine → Step Prompt (Except Failure Unit)
  | p, [] => ⟨.error .missingStop, p, []⟩
  | p, input :: inputs =>
    let taken := take echoing p input
    match taken.answer with
    | some result => ⟨result, taken.state, taken.events⟩
    | none => (run echoing taken.state inputs).after taken.events

/-- The record that the history could not be saved. -/
def notSaved (path : String) (cause : SystemError) : Record :=
  ⟨.warn, .prompt, "failed to save history", [("path", path), ("error", cause.message)]⟩

end Prompt

end SetCalculator
