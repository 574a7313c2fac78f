import SetCalculator.Proofs.Script.Cut
import SetCalculator.Proofs.Session.Mirror

/-!
# Calls of a session

A front end drives a session by calls: it hands over commands or lines, has lines echoed and
refusals reported, forgets the captured items, or runs a whole script. `Session.Call` lists the
calls with all that they take, and `Session.callAll` makes them one after the other.

Whatever calls are made, a session that prints keeps mirroring one that captures, and both give the
same replies (`callAll_mirrors`). For scripts this holds of each line (`Mirrors.runLine`), and over
the whole script what the one prints is what the other captures (`Mirrors.runLines`).
-/

namespace SetCalculator

open Text

/-! ## Scripts -/

namespace Session.Mirrors

variable {s t : Session}

/-- Running a line of a script is mirrored: both sessions echo it and execute it. -/
theorem runLine (h : s.Mirrors t) (strict : Bool) (number : Nat) (line : String) :
    Step.Mirrors t (Script.runLine strict number s line) (Script.runLine strict number t line) := by
  by_cases hskip : Script.Skipped line.toList
  · rw [Script.runLine_of_skipped strict number hskip,
      Script.runLine_of_skipped strict number hskip]
    exact .quiet rfl h rfl rfl
  · have hechoed := h.echo (String.ofList (trim line.toList))
    have hfed := hechoed.after (hechoed.state.feed line) []
    obtain ⟨hstate, hprinted⟩ := Script.runLine_of_not_skipped (s := s) strict number hskip
    obtain ⟨hstate', -⟩ := Script.runLine_of_not_skipped (s := t) strict number hskip
    refine hfed.congr ?_ hstate hstate' (hprinted.trans (printed_append _ _).symm)
    rw [Script.answer_runLine_of_not_skipped strict number hskip,
      Script.answer_runLine_of_not_skipped strict number hskip,
      (hechoed.state.executeLine line).answer]

/-- Taking a line of a script is mirrored, also if it cannot be read. -/
theorem take (h : s.Mirrors t) (strict : Bool) (number : Nat) (input : InputLine) :
    Step.Mirrors t (Script.take strict number s input) (Script.take strict number t input) := by
  cases input with
  | error cause => exact .quiet rfl h rfl rfl
  | ok line => exact h.runLine strict number line

/-- Running the lines of a script is mirrored, by induction on the lines: both runs end at the same
one. -/
theorem runFrom (h : s.Mirrors t) (strict : Bool) (number : Nat) (inputs : List InputLine) :
    Step.Mirrors t (Script.runFrom strict number s inputs)
      (Script.runFrom strict number t inputs) := by
  induction inputs generalizing s t number with
  | nil => exact .quiet rfl h rfl rfl
  | cons input inputs ih =>
    have htaken := h.take strict number input
    cases hanswer : (Script.take strict number s input).answer with
    | some result =>
      simp only [Script.runFrom, hanswer, ← htaken.answer]
      exact htaken.congr rfl rfl rfl rfl
    | none =>
      simp only [Script.runFrom, hanswer, ← htaken.answer]
      exact htaken.after (ih htaken.state (number + 1)) _

/-- **A script**: what the one session prints is what the other one captures. -/
theorem runLines (h : s.Mirrors t) (strict : Bool) (lines : List InputLine) :
    Step.Mirrors t (Script.runLines strict s lines) (Script.runLines strict t lines) :=
  h.runFrom strict 1 lines

/-- Running a script is mirrored, whether it can be opened or not. -/
theorem runScript (h : s.Mirrors t) (strict : Bool) (path : String)
    (opened : Except SystemError Opened) :
    Step.Mirrors t (Script.run strict s path opened) (Script.run strict t path opened) := by
  cases opened with
  | error cause => exact .quiet rfl h rfl rfl
  | ok opened =>
    have hrun := h.runLines strict opened.lines
    exact hrun.congr hrun.answer rfl rfl rfl

end Session.Mirrors

/-! ## Calls -/

namespace Session

/-- What a session can be called for. -/
inductive Call where
  /-- Execute a command. -/
  | execute (command : Command)
  /-- Execute a line; a refusal is the reply. -/
  | executeLine (line : String)
  /-- Execute a line; a refusal is reported. -/
  | feed (line : String)
  /-- Show a line that was received. -/
  | echo (line : String)
  /-- Show why a line was not executed. -/
  | report (refusal : Refusal)
  /-- Forget the captured items. -/
  | clear
  /-- Run the lines of a script. -/
  | runLines (strict : Bool) (lines : List InputLine)
  /-- Run the script at a path, given what opening it led to. -/
  | runScript (strict : Bool) (path : String) (opened : Except SystemError Opened)

/-- What a call is answered by. -/
inductive Reply where
  | done
  | executed (result : Except Refusal Flow)
  | fed (flow : Flow)
  | ended (result : Except Failure Unit)
  deriving DecidableEq

/-- Makes a call. -/
def call (s : Session) : Call → Step Session Reply
  | .execute command =>
    let done := s.execute command
    ⟨.executed done.answer, done.state, done.events⟩
  | .executeLine line =>
    let done := s.executeLine line
    ⟨.executed done.answer, done.state, done.events⟩
  | .feed line =>
    let fed := s.feed line
    ⟨.fed fed.answer, fed.state, fed.events⟩
  | .echo line =>
    let echoed := s.echo line
    ⟨.done, echoed.state, echoed.events⟩
  | .report refusal =>
    let reported := s.report refusal
    ⟨.done, reported.state, reported.events⟩
  | .clear => ⟨.done, s.clearTranscript, []⟩
  | .runLines strict lines =>
    let run := Script.runLines strict s lines
    ⟨.ended run.answer, run.state, run.events⟩
  | .runScript strict path opened =>
    let run := Script.run strict s path opened
    ⟨.ended run.answer, run.state, run.events⟩

/-- Makes calls one after the other. -/
def callAll (s : Session) : List Call → Step Session (List Reply)
  | [] => ⟨[], s, []⟩
  | call :: calls =>
    let called := s.call call
    let rest := called.state.callAll calls
    ⟨called.answer :: rest.answer, rest.state, called.events ++ rest.events⟩

variable {s t : Session}

/-- **One call**: the replies are the same, and the sessions go on mirroring each other. -/
theorem call_mirrors (h : s.Mirrors t) (call : Call) :
    (s.call call).answer = (t.call call).answer ∧
      (s.call call).state.Mirrors (t.call call).state := by
  cases call with
  | execute command =>
    have hdone := h.execute command
    exact ⟨congrArg Reply.executed hdone.answer, hdone.state⟩
  | executeLine line =>
    have hdone := h.executeLine line
    exact ⟨congrArg Reply.executed hdone.answer, hdone.state⟩
  | feed line =>
    have hfed := h.feed line
    exact ⟨congrArg Reply.fed hfed.answer, hfed.state⟩
  | echo line => exact ⟨rfl, (h.echo line).state⟩
  | report refusal => exact ⟨rfl, (h.report refusal).state⟩
  | clear => exact ⟨rfl, ⟨h.agrees.registers, h.agrees.phase⟩, h.prints, rfl, h.captures⟩
  | runLines strict lines =>
    have hrun := h.runLines strict lines
    exact ⟨congrArg Reply.ended hrun.answer, hrun.state⟩
  | runScript strict path opened =>
    have hrun := h.runScript strict path opened
    exact ⟨congrArg Reply.ended hrun.answer, hrun.state⟩

/-- **Calls one after the other are mirrored**, with the same answers. -/
theorem callAll_mirrors (h : s.Mirrors t) (calls : List Call) :
    (s.callAll calls).answer = (t.callAll calls).answer ∧
      (s.callAll calls).state.Mirrors (t.callAll calls).state := by
  induction calls generalizing s t with
  | nil => exact ⟨rfl, h⟩
  | cons call calls ih =>
    obtain ⟨hreply, hstate⟩ := call_mirrors h call
    obtain ⟨hreplies, hend⟩ := ih hstate
    refine ⟨?_, hend⟩
    rw [Session.callAll, Session.callAll, hreply, hreplies]

end Session

end SetCalculator
