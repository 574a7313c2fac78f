import SetCalculator.Proofs.Line.Agreement
import SetCalculator.Proofs.Script.Calls

/-!
# Stopped sessions

A session that was stopped stays so, whatever calls it gets: it changes no register, and all that it
shows are echoes and reports (`call_of_stopped`). `Declines` lists what it replies and shows for
each call; the text of a line decides, by way of the verdict on it. No script ends well in such a
session, since the one way to end well is to execute the command that stops it
(`Script.runFrom_of_stopped`).

Of a step, `Step.OnlyShows` says that it does nothing but show items. These steps compose
(`Step.OnlyShows.after`), and every step of a stopped session comes down to echoes and reports.
-/

namespace SetCalculator

open Text

variable {α β : Type}

/-! ## Steps that only show something -/

/-- The step from `s` shows these items, and changes nothing but the captured ones. -/
structure Step.OnlyShows (s : Session) (step : Step Session α) (items : List String) : Prop where
  registers : step.state.registers = s.registers
  phase : step.state.phase = s.phase
  capturing : step.state.capturing = s.capturing
  captured : step.state.transcript.toList =
    s.transcript.toList ++ if s.capturing then items else []
  printed : (printed step.events).map Prod.snd = if s.capturing then [] else items

namespace Step.OnlyShows

variable {s : Session} {a : Step Session α} {b : Step Session β} {items others : List String}

/-- A step that leaves the session as it is and prints nothing. -/
theorem nothing (hstate : a.state = s) (hprinted : SetCalculator.printed a.events = []) :
    OnlyShows s a [] := by
  refine ⟨by rw [hstate], by rw [hstate], by rw [hstate], ?_, ?_⟩
  · rw [hstate, ite_self, List.append_nil]
  · rw [hprinted, ite_self, List.map_nil]

/-- What a step answers does not matter, nor what it logs. -/
theorem congr (h : OnlyShows s a items) (hstate : b.state = a.state)
    (hprinted : SetCalculator.printed b.events = SetCalculator.printed a.events) :
    OnlyShows s b items := by
  obtain ⟨hregisters, hphase, hcapturing, hcaptured, hshown⟩ := h
  rw [← hstate] at hregisters hphase hcapturing hcaptured
  rw [← hprinted] at hshown
  exact ⟨hregisters, hphase, hcapturing, hcaptured, hshown⟩

/-- Two steps that only show items show those of the first and then those of the second. -/
theorem after (h : OnlyShows s a items) (h' : OnlyShows a.state b others) :
    OnlyShows s (b.after a.events) (items ++ others) := by
  refine ⟨h'.registers.trans h.registers, h'.phase.trans h.phase, h'.capturing.trans h.capturing,
    ?_, ?_⟩
  · show b.state.transcript.toList = _
    rw [h'.captured, h.captured, h.capturing]
    cases s.capturing
    · simp
    · simp
  · show (SetCalculator.printed (a.events ++ b.events)).map Prod.snd = _
    rw [printed_append, List.map_append, h.printed, h'.printed, h.capturing]
    cases s.capturing
    · simp
    · simp

end Step.OnlyShows

/-- Showing a text changes nothing but the captured items. -/
theorem Session.onlyShows_emit (s : Session) (stream : Stream) (text : String) :
    (s.emit stream text).OnlyShows s [text] := by
  unfold Session.emit
  split
  · next hcaptures => exact ⟨rfl, rfl, rfl, by simp [hcaptures], by simp [hcaptures]⟩
  · next hprints => exact ⟨rfl, rfl, rfl, by simp [hprints], by simp [hprints]⟩

/-! ## What a stopped session replies -/

namespace Session

/-- What a stopped session answers to a line: the verdict, if the line is no command. -/
def lateAnswer (line : String) : Except Refusal Flow :=
  match Verdict.ofLine line.toList with
  | .error rejection => .error (.rejected rejection)
  | .ok .skip => .ok .continue
  | .ok (.accept _) => .error .terminated

/-- To stop a session again is no success. -/
theorem lateAnswer_ne_stop (line : String) : lateAnswer line ≠ .ok .stop := by
  unfold lateAnswer
  split
  · nofun
  · nofun
  · nofun

/-- `Declines call reply items`: the reply of a stopped session to the call, and what it shows. -/
inductive Declines : Call → Reply → List String → Prop
  /-- A command is refused. -/
  | execute {command : Command} :
    Declines (.execute command) (.executed (.error .terminated)) []
  /-- So is a line that is a command; the reply to any other line is its verdict. -/
  | executeLine {line : String} :
    Declines (.executeLine line) (.executed (lateAnswer line)) []
  /-- After a line that is a command no other line is wanted. -/
  | feedAccepted {line : String} {keyword : Keyword} :
    Verdict.ofLine line.toList = .ok (.accept keyword) →
    Declines (.feed line) (.fed .stop) ["Error: The calculator has already stopped."]
  /-- A line that is rejected is reported. -/
  | feedRejected {line : String} {rejection : Rejection} :
    Verdict.ofLine line.toList = .error rejection →
    Declines (.feed line) (.fed .continue) ["Error: " ++ rejection.message]
  /-- A blank line does nothing. -/
  | feedSkipped {line : String} : Verdict.ofLine line.toList = .ok .skip →
    Declines (.feed line) (.fed .continue) []
  | echo {line : String} : Declines (.echo line) .done ["> " ++ line]
  | report {refusal : Refusal} : Declines (.report refusal) .done ["Error: " ++ refusal.message]
  /-- A script fails, whatever its lines are. -/
  | runLines {strict : Bool} {lines : List InputLine} {failure : Failure} {items : List String} :
    (∀ item ∈ items, IsEcho item ∨ IsReport item) →
    Declines (.runLines strict lines) (.ended (.error failure)) items
  | runScript {strict : Bool} {path : String} {opened : Except SystemError Opened}
      {failure : Failure} {items : List String} :
    (∀ item ∈ items, IsEcho item ∨ IsReport item) →
    Declines (.runScript strict path opened) (.ended (.error failure)) items

/-- A stopped session shows echoes and reports. -/
theorem Declines.isEcho_or_isReport {call : Call} {reply : Reply} {items : List String}
    (h : Declines call reply items) : ∀ item ∈ items, IsEcho item ∨ IsReport item := by
  cases h with
  | execute | executeLine | feedSkipped => exact List.forall_mem_nil _
  | feedAccepted => exact List.forall_mem_singleton.2 (.inr (by decide))
  | feedRejected => exact List.forall_mem_singleton.2 (.inr (isReport_report _))
  | echo => exact List.forall_mem_singleton.2 (.inl (isEcho_echo _))
  | report => exact List.forall_mem_singleton.2 (.inr (isReport_report _))
  | runLines hitems | runScript hitems => exact hitems

section

variable {s : Session} (hs : s.phase = .terminated)
include hs

/-- **Executing a line in a stopped session** answers by the verdict on the line and changes
nothing. -/
theorem executeLine_of_stopped (line : String) :
    s.executeLine line = ⟨lateAnswer line, s, (readingRecords line.toList).map .logged⟩ := by
  rcases Command.ofLine_cases line.toList with
    ⟨rejection, hverdict, hline⟩ | ⟨hverdict, hline⟩ | ⟨command, hverdict, -, hline⟩
  · rw [executeLine_of_rejected hline, lateAnswer, hverdict]
  · rw [executeLine_of_blank hline, lateAnswer, hverdict]
  · rw [executeLine_of_terminated hs hline, lateAnswer, hverdict]

/-- Executing a line in a stopped session shows nothing. -/
theorem onlyShows_executeLine (line : String) : (s.executeLine line).OnlyShows s [] := by
  rw [executeLine_of_stopped hs]
  exact .nothing rfl (printed_map_logged _)

/-- A line that is refused is fed by showing the report. -/
theorem onlyShows_feed_of_error {line : String} {refusal : Refusal}
    (h : (s.executeLine line).answer = .error refusal) :
    (s.feed line).OnlyShows s ["Error: " ++ refusal.message] := by
  rw [feed_of_error h]
  have hreported := (onlyShows_executeLine hs line).after (onlyShows_emit _ .diagnostics
    ("Error: " ++ refusal.message))
  exact hreported.congr rfl rfl

/-- **A line that is fed to a stopped session** is declined: its items are the report, if there is
one. -/
theorem declines_feed (line : String) :
    ∃ items, Declines (.feed line) (.fed (s.feed line).answer) items ∧
      (s.feed line).OnlyShows s items := by
  have hdone := executeLine_of_stopped hs line
  cases hverdict : Verdict.ofLine line.toList with
  | error rejection =>
    have hanswer : (s.executeLine line).answer = .error (.rejected rejection) := by
      rw [hdone, lateAnswer, hverdict]
    refine ⟨_, ?_, onlyShows_feed_of_error hs hanswer⟩
    rw [feed_of_error hanswer]
    exact .feedRejected hverdict
  | ok verdict =>
    cases verdict with
    | skip =>
      have hanswer : (s.executeLine line).answer = .ok .continue := by
        rw [hdone, lateAnswer, hverdict]
      refine ⟨[], ?_, ?_⟩
      · rw [feed_of_ok hanswer]
        exact .feedSkipped hverdict
      · rw [feed_of_ok hanswer]
        exact (onlyShows_executeLine hs line).congr rfl rfl
    | accept keyword =>
      have hanswer : (s.executeLine line).answer = .error .terminated := by
        rw [hdone, lateAnswer, hverdict]
      refine ⟨_, ?_, onlyShows_feed_of_error hs hanswer⟩
      rw [feed_of_error hanswer]
      exact .feedAccepted hverdict

/-- No other line is wanted exactly after a line that is a command. -/
theorem answer_feed_eq_stop_iff_accept (line : String) :
    (s.feed line).answer = .stop ↔
      ∃ keyword, Verdict.ofLine line.toList = .ok (.accept keyword) := by
  obtain ⟨items, hdeclines, -⟩ := declines_feed hs line
  generalize (s.feed line).answer = flow at hdeclines
  cases hdeclines with
  | feedAccepted hverdict => exact iff_of_true rfl ⟨_, hverdict⟩
  | feedRejected hverdict => exact iff_of_false nofun fun ⟨_, h⟩ => nomatch hverdict.symm.trans h
  | feedSkipped hverdict => exact iff_of_false nofun fun ⟨_, h⟩ => nomatch hverdict.symm.trans h

end

end Session

namespace Script

section

variable {s : Session} (hs : s.phase = .terminated) (strict : Bool)
include hs

/-- **One line of a script**, in a stopped session: it does not end the script well, and shows its
echo and its report at most. -/
theorem runLine_of_stopped (number : Nat) (line : String) :
    (runLine strict number s line).answer ≠ some (.ok ()) ∧
    ∃ items, (∀ item ∈ items, IsEcho item ∨ IsReport item) ∧
      (runLine strict number s line).OnlyShows s items := by
  by_cases hskip : Skipped line.toList
  · rw [runLine_of_skipped strict number hskip]
    exact ⟨nofun, [], List.forall_mem_nil _, .nothing rfl rfl⟩
  · have hechoed := Session.onlyShows_emit s .output ("> " ++ String.ofList (trim line.toList))
    have hstopped : (s.echo (String.ofList (trim line.toList))).state.phase = .terminated :=
      hechoed.phase.trans hs
    obtain ⟨items, hdeclines, hshows⟩ := Session.declines_feed hstopped line
    obtain ⟨hstate, hprinted⟩ := runLine_of_not_skipped (s := s) strict number hskip
    refine ⟨?_, _, List.forall_mem_cons.2 ⟨.inl (isEcho_echo _), hdeclines.isEcho_or_isReport⟩,
      (hechoed.after hshows).congr hstate (hprinted.trans (printed_append _ _).symm)⟩
    rw [answer_runLine_of_not_skipped strict number hskip,
      Session.executeLine_of_stopped hstopped, Session.lateAnswer]
    split
    · next h => split at h <;> cases h
    · nofun
    · split <;> nofun

/-- A line that cannot be read does not end a script well and shows nothing, and any other is
run. -/
theorem take_of_stopped (number : Nat) (input : InputLine) :
    (take strict number s input).answer ≠ some (.ok ()) ∧
    ∃ items, (∀ item ∈ items, IsEcho item ∨ IsReport item) ∧
      (take strict number s input).OnlyShows s items := by
  cases input with
  | error cause => exact ⟨nofun, [], List.forall_mem_nil _, .nothing rfl rfl⟩
  | ok line => exact runLine_of_stopped hs strict number line

/-- **The lines of a script**, in a stopped session: no line ends it well, not even one that asks to
stop. -/
theorem runFrom_of_stopped (number : Nat) (inputs : List InputLine) :
    (runFrom strict number s inputs).answer ≠ .ok () ∧
    ∃ items, (∀ item ∈ items, IsEcho item ∨ IsReport item) ∧
      (runFrom strict number s inputs).OnlyShows s items := by
  induction inputs generalizing s number with
  | nil => exact ⟨nofun, [], List.forall_mem_nil _, .nothing rfl rfl⟩
  | cons input inputs ih =>
    obtain ⟨hnot, items, hitems, hshows⟩ := take_of_stopped hs strict number input
    cases hanswer : (take strict number s input).answer with
    | some result =>
      simp only [runFrom, hanswer]
      rw [hanswer] at hnot
      exact ⟨fun hok => hnot (congrArg some hok), items, hitems, hshows.congr rfl rfl⟩
    | none =>
      obtain ⟨hfails, others, hothers, hrest⟩ := ih (hshows.phase.trans hs) (number + 1)
      simp only [runFrom, hanswer]
      exact ⟨hfails, items ++ others, List.forall_mem_append.2 ⟨hitems, hothers⟩,
        hshows.after hrest⟩

end

end Script

namespace Session

/-- **One call of a stopped session.** To forget the items is the only call that it does not
decline. -/
theorem call_of_stopped {s : Session} (hs : s.phase = .terminated) {call : Call}
    (hclear : call ≠ .clear) :
    ∃ items, Declines call (s.call call).answer items ∧ (s.call call).OnlyShows s items := by
  -- What a script does not end well it ends with a failure.
  have hended : ∀ {result : Except Failure Unit}, result ≠ .ok () →
      ∃ failure, result = .error failure := by
    rintro (failure | ⟨⟩) hne
    · exact ⟨failure, rfl⟩
    · exact absurd rfl hne
  cases call with
  | execute command =>
    refine ⟨[], ?_, ?_⟩
    · simp only [Session.call, execute_terminated hs]
      exact .execute
    · simp only [Session.call, execute_terminated hs]
      exact .nothing rfl rfl
  | executeLine line =>
    refine ⟨[], ?_, (onlyShows_executeLine hs line).congr rfl rfl⟩
    simp only [Session.call, executeLine_of_stopped hs]
    exact .executeLine
  | feed line =>
    obtain ⟨items, hdeclines, hshows⟩ := declines_feed hs line
    exact ⟨items, hdeclines, hshows.congr rfl rfl⟩
  | echo line => exact ⟨_, .echo, (onlyShows_emit s .output _).congr rfl rfl⟩
  | report refusal => exact ⟨_, .report, (onlyShows_emit s .diagnostics _).congr rfl rfl⟩
  | clear => exact absurd rfl hclear
  | runLines strict lines =>
    obtain ⟨hfails, items, hitems, hshows⟩ := Script.runFrom_of_stopped hs strict 1 lines
    obtain ⟨failure, hfailure⟩ := hended hfails
    refine ⟨items, ?_, hshows.congr rfl rfl⟩
    simp only [Session.call, Script.runLines, hfailure]
    exact .runLines hitems
  | runScript strict path opened =>
    cases opened with
    | error cause =>
      exact ⟨[], .runScript (List.forall_mem_nil _), .nothing rfl rfl⟩
    | ok opened =>
      obtain ⟨hfails, items, hitems, hshows⟩ := Script.runFrom_of_stopped hs strict 1 opened.lines
      obtain ⟨failure, hfailure⟩ := hended hfails
      refine ⟨items, ?_, hshows.congr rfl rfl⟩
      simp only [Session.call, Script.run, Script.runLines, Step.after, hfailure]
      exact .runScript hitems

/-- **Calls one after the other.** A stopped session stays so, and keeps its registers. -/
theorem callAll_of_stopped {s : Session} (hs : s.phase = .terminated) (calls : List Call) :
    (s.callAll calls).state.phase = .terminated ∧
      (s.callAll calls).state.registers = s.registers := by
  induction calls generalizing s with
  | nil => exact ⟨hs, rfl⟩
  | cons call calls ih =>
    by_cases hclear : call = .clear
    · subst hclear
      exact ih (s := s.clearTranscript) hs
    · obtain ⟨items, -, hshows⟩ := call_of_stopped hs hclear
      obtain ⟨hphase, hregisters⟩ := ih (hshows.phase.trans hs)
      exact ⟨hphase, hregisters.trans hshows.registers⟩

end Session

end SetCalculator
