import SetCalculator.Proofs.Line.Trace
import SetCalculator.Proofs.Session.Stopped

/-!
# What stops a session

A session that is idle is stopped by the command for it and by nothing else, whether a call brings
the command, a line, or a script that reaches such a line (`Session.Call.Stops`). It is stopped
once: `Step.Turns` says of a step that it leaves the phase alone or turns it from idle to
terminated, and counts the turns by what is logged. After a step that turned the session none can
turn it again, as it is no longer idle (`Step.Turns.after`).

With what is known of stopped sessions this describes a session under any calls
(`stopping_is_final`).
-/

namespace SetCalculator

open Text Log

variable {α β : Type}

/-! ## Steps that may stop a session -/

/-- The record that a session was stopped. -/
def stopEvent : Event := .logged ⟨.info, .session, "stopped", []⟩

/-- How often a session was stopped, by the events. -/
def stops (events : List Event) : Nat := events.count stopEvent

@[simp] theorem stops_nil : stops [] = 0 := rfl

@[simp] theorem stops_append (xs ys : List Event) : stops (xs ++ ys) = stops xs + stops ys :=
  List.count_append

/-- An event that is not the record of a stop does not count as one. -/
theorem stops_cons_of_ne {event : Event} (h : event ≠ stopEvent) (events : List Event) :
    stops (event :: events) = stops events :=
  List.count_cons_of_ne h

/-- Reading a line stops nothing. -/
@[simp] theorem stops_readingRecords (line : List Char) :
    stops ((readingRecords line).map .logged) = 0 := by
  refine List.count_eq_zero.2 fun hmem => ?_
  obtain ⟨r, hr, hevent⟩ := List.mem_map.1 hmem
  obtain rfl := Event.logged.inj hevent
  rcases mem_readingRecords hr with ⟨t, ht⟩ | ⟨verdict, hverdict⟩
  · cases congrArg Record.component ht
  · rcases verdict with rejection | verdict
    · cases congrArg Record.component hverdict
    · cases verdict with
      | skip => cases congrArg Record.component hverdict
      | accept keyword => cases congrArg Record.component hverdict

/-- The step from `s` leaves the phase as it is and stops nothing, or stops an idle session. -/
inductive Step.Turns (s : Session) (step : Step Session α) : Prop
  | stays : step.state.phase = s.phase → stops step.events = 0 → Turns s step
  | stopped : s.phase = .idle → step.state.phase = .terminated → stops step.events = 1 →
    Turns s step

namespace Step.Turns

variable {s : Session} {a : Step Session α} {b : Step Session β}

/-- What a step answers does not matter, nor what else it logs. -/
theorem congr (h : Turns s a) (hstate : b.state = a.state)
    (hstops : stops b.events = stops a.events) : Turns s b := by
  cases h with
  | stays hphase hnone => exact .stays (by rw [hstate, hphase]) (hstops.trans hnone)
  | stopped hidle hphase hone =>
    exact .stopped hidle (by rw [hstate, hphase]) (hstops.trans hone)

/-- **One step after the other.** Not both of them can stop the session. -/
theorem after (h : Turns s a) (h' : Turns a.state b) : Turns s (b.after a.events) := by
  have hstops : stops (b.after a.events).events = stops a.events + stops b.events :=
    stops_append _ _
  cases h with
  | stays hphase hnone =>
    cases h' with
    | stays hphase' hnone' =>
      exact .stays (hphase'.trans hphase) (by rw [hstops, hnone, hnone'])
    | stopped hidle hphase' hone =>
      exact .stopped (hphase.symm.trans hidle) hphase' (by rw [hstops, hnone, hone])
  | stopped hidle hphase hone =>
    cases h' with
    | stays hphase' hnone =>
      exact .stopped hidle (hphase'.trans hphase) (by rw [hstops, hone, hnone])
    | stopped hidle' => cases hphase.symm.trans hidle'

end Step.Turns

namespace Session

/-- Showing a text stops nothing. -/
theorem turns_emit (s : Session) (stream : Stream) (text : String) :
    (s.emit stream text).Turns s := by
  refine .stays (phase_emit s stream text) ?_
  unfold Session.emit
  split
  · rfl
  · rfl

/-- Of the commands, only the stop stops an idle session. -/
theorem turns_perform {s : Session} (hs : s.phase = .idle) (command : Command) :
    (s.perform command).Turns s := by
  cases command with
  | read target members => exact .stays rfl (stops_cons_of_ne (by simp [stopEvent]) [])
  | print register => exact (turns_emit s .output _).congr rfl rfl
  | combine op lhs rhs dest => exact .stays rfl rfl
  | stop => exact .stopped hs rfl rfl

/-- After a stop, no command stops the session again. -/
theorem turns_execute (s : Session) (command : Command) : (s.execute command).Turns s := by
  cases hphase : s.phase with
  | terminated =>
    rw [execute_terminated hphase]
    exact .stays rfl rfl
  | idle =>
    rw [execute_of_idle hphase]
    exact (turns_perform hphase command).congr rfl (stops_cons_of_ne (by simp [stopEvent]) _)

/-- Executing a line stops what its command stops; reading it stops nothing. -/
theorem turns_executeLine (s : Session) (line : String) : (s.executeLine line).Turns s := by
  cases hline : Command.ofLine line.toList with
  | error rejection =>
    rw [executeLine_of_rejected hline]
    exact .stays rfl (stops_readingRecords _)
  | ok asked =>
    cases asked with
    | none =>
      rw [executeLine_of_blank hline]
      exact .stays rfl (stops_readingRecords _)
    | some command =>
      simp only [Session.executeLine, hline]
      exact (turns_execute s command).congr rfl (by simp)

/-- Reporting stops nothing, so feeding a line stops what executing it does. -/
theorem turns_feed (s : Session) (line : String) : (s.feed line).Turns s := by
  have hdone := turns_executeLine s line
  cases hanswer : (s.executeLine line).answer with
  | ok flow =>
    rw [feed_of_ok hanswer]
    exact hdone.congr rfl rfl
  | error refusal =>
    rw [feed_of_error hanswer]
    exact (hdone.after (turns_emit _ .diagnostics _)).congr rfl rfl

end Session

/-! ## Scripts and calls that may stop a session -/

namespace Script

/-- The record that a script adds about a line that was not executed is not that of a stop. -/
theorem stops_runLine (strict : Bool) (number : Nat) (s : Session) {line : String}
    (h : ¬ Skipped line.toList) :
    let echoed := s.echo (String.ofList (trim line.toList))
    stops (runLine strict number s line).events =
      stops echoed.events + stops (echoed.state.feed line).events := by
  intro echoed
  have hskip := isSkipped_trim_eq_false h
  cases hdone : (echoed.state.executeLine line).answer with
  | ok flow =>
    rw [Session.feed_of_ok hdone]
    cases flow
    · simp only [runLine, hskip, Bool.false_eq_true, if_false, echoed, hdone, stops_append]
    · simp only [runLine, hskip, Bool.false_eq_true, if_false, echoed, hdone, stops_append]
  | error refusal =>
    rw [Session.feed_of_error hdone]
    simp only [runLine, hskip, Bool.false_eq_true, if_false, echoed, hdone, stops_append]
    rw [stops_cons_of_ne (by simp [stopEvent]), Nat.add_assoc]

/-- A line of a script stops what its command stops; the echo before it stops nothing. -/
theorem turns_runLine (strict : Bool) (number : Nat) (s : Session) (line : String) :
    (runLine strict number s line).Turns s := by
  by_cases hskip : Skipped line.toList
  · rw [runLine_of_skipped strict number hskip]
    exact .stays rfl rfl
  · have hechoed := Session.turns_emit s .output ("> " ++ String.ofList (trim line.toList))
    have hfed := hechoed.after (Session.turns_feed _ line)
    refine hfed.congr (runLine_of_not_skipped strict number hskip).1 ?_
    exact (stops_runLine strict number s hskip).trans (stops_append _ _).symm

/-- A line of a script that cannot be read stops nothing, and any other is run. -/
theorem turns_take (strict : Bool) (number : Nat) (s : Session) (input : InputLine) :
    (take strict number s input).Turns s := by
  cases input with
  | error cause => exact .stays rfl rfl
  | ok line => exact turns_runLine strict number s line

/-- The lines of a script, by induction: a stop may be in the first or in the others, and not in
both. -/
theorem turns_runFrom (strict : Bool) (number : Nat) (s : Session) (inputs : List InputLine) :
    (runFrom strict number s inputs).Turns s := by
  induction inputs generalizing s number with
  | nil => exact .stays rfl rfl
  | cons input inputs ih =>
    have htaken := turns_take strict number s input
    cases hanswer : (take strict number s input).answer with
    | some result =>
      simp only [runFrom, hanswer]
      exact htaken.congr rfl rfl
    | none =>
      simp only [runFrom, hanswer]
      exact htaken.after (ih (number + 1) _)

/-- A script that cannot be opened stops nothing, and any other stops what its lines stop. -/
theorem turns_run (strict : Bool) (s : Session) (path : String)
    (opened : Except SystemError Opened) : (run strict s path opened).Turns s := by
  cases opened with
  | error cause => exact .stays rfl rfl
  | ok opened =>
    exact (turns_runFrom strict 1 s opened.lines).congr rfl
      (stops_cons_of_ne (by simp [stopEvent]) _)

end Script

namespace Session

/-- **Every call** leaves the phase as it is or stops an idle session. -/
theorem turns_call (s : Session) (call : Call) : (s.call call).Turns s := by
  cases call with
  | execute command => exact (turns_execute s command).congr rfl rfl
  | executeLine line => exact (turns_executeLine s line).congr rfl rfl
  | feed line => exact (turns_feed s line).congr rfl rfl
  | echo line => exact (turns_emit s .output _).congr rfl rfl
  | report refusal => exact (turns_emit s .diagnostics _).congr rfl rfl
  | clear => exact .stays rfl rfl
  | runLines strict lines => exact (Script.turns_runFrom strict 1 s lines).congr rfl rfl
  | runScript strict path opened => exact (Script.turns_run strict s path opened).congr rfl rfl

/-- **No calls stop a session twice.** -/
theorem turns_callAll (s : Session) (calls : List Call) : (s.callAll calls).Turns s := by
  induction calls generalizing s with
  | nil => exact .stays rfl rfl
  | cons call calls ih => exact ((turns_call s call).after (ih _)).congr rfl rfl

end Session

/-! ## What stops a session -/

namespace Session

variable {s : Session} (hs : s.phase = .idle)

/-- An idle session has not stopped. -/
theorem phase_ne_terminated_of_idle {t : Session} (h : t.phase = .idle) :
    t.phase ≠ .terminated := by
  rw [h]
  exact nofun

/-- A report does not change the phase. -/
theorem phase_feed_eq (s : Session) (line : String) :
    (s.feed line).state.phase = (s.executeLine line).state.phase := by
  cases hdone : (s.executeLine line).answer with
  | ok flow => rw [feed_of_ok hdone]
  | error refusal =>
    rw [feed_of_error hdone]
    exact phase_emit _ _ _

include hs

/-- Only the stop stops an idle session. -/
theorem phase_perform_eq_terminated_iff (command : Command) :
    (s.perform command).state.phase = .terminated ↔ command = .stop := by
  by_cases h : command = .stop
  · subst h
    exact iff_of_true rfl rfl
  · have hidle := (phase_perform_of_ne_stop s h).trans hs
    exact iff_of_false (phase_ne_terminated_of_idle hidle) h

/-- **A line stops an idle session exactly if it asks to.** -/
theorem phase_executeLine_eq_terminated_iff (line : String) :
    (s.executeLine line).state.phase = .terminated ↔ AsksToStop line := by
  have hnone : ∀ {answer : Except Rejection (Option Command)}, answer ≠ .ok (some .stop) →
      (s.phase = .terminated ↔ answer = .ok (some .stop)) :=
    iff_of_false (phase_ne_terminated_of_idle hs)
  rw [AsksToStop]
  cases hline : Command.ofLine line.toList with
  | error rejection =>
    rw [executeLine_of_rejected hline]
    exact hnone (by simp)
  | ok asked =>
    cases asked with
    | none =>
      rw [executeLine_of_blank hline]
      exact hnone (by simp)
    | some command =>
      rw [executeLine_of_idle hs hline, Except.ok.injEq, Option.some.injEq]
      exact phase_perform_eq_terminated_iff hs command

end Session

namespace Script

/-- A line that asks to stop is reached: the lines before it are text, and in a strict script none
of them is rejected. -/
inductive ReachesStop (strict : Bool) : List InputLine → Prop
  | here {line : String} {rest : List InputLine} : ¬ Skipped line.toList → AsksToStop line →
    ReachesStop strict (.ok line :: rest)
  | past {line : String} {rest : List InputLine} :
    (strict = true → Skipped line.toList ∨ ∃ asked, Command.ofLine line.toList = .ok asked) →
    ReachesStop strict rest → ReachesStop strict (.ok line :: rest)

/-- A line before the stop does not matter if it is passed over or executed, or the script is not
strict. -/
theorem reachesStop_cons_iff {strict : Bool} {line : String} {rest : List InputLine}
    (hpast : strict = true →
      Skipped line.toList ∨ ∃ asked, Command.ofLine line.toList = .ok asked)
    (hnot : ¬ Skipped line.toList → ¬ AsksToStop line) :
    ReachesStop strict (.ok line :: rest) ↔ ReachesStop strict rest := by
  refine ⟨fun h => ?_, .past hpast⟩
  cases h with
  | here hskip hstop => exact absurd hstop (hnot hskip)
  | past _ hrest => exact hrest

/-- A line that is not passed over leaves a script in the phase that executing it leaves. -/
theorem phase_runLine (strict : Bool) (number : Nat) (s : Session) {line : String}
    (h : ¬ Skipped line.toList) :
    (runLine strict number s line).state.phase =
      ((s.echo (String.ofList (trim line.toList))).state.executeLine line).state.phase := by
  rw [(runLine_of_not_skipped strict number h).1, Session.phase_feed_eq]

/-- A line that is not passed over and does not ask to stop ends a script only if it is rejected and
the script is strict. -/
theorem answer_runLine_of_not_asksToStop (strict : Bool) (number : Nat) {s : Session}
    (hs : s.phase = .idle) {line : String} (hskip : ¬ Skipped line.toList)
    (hstop : ¬ AsksToStop line) :
    ((runLine strict number s line).answer = none ∧
      (strict = true → ∃ asked, Command.ofLine line.toList = .ok asked)) ∨
    ∃ result, (runLine strict number s line).answer = some result ∧ strict = true ∧
      ∃ rejection, Command.ofLine line.toList = .error rejection := by
  rw [answer_runLine strict number hs hskip]
  cases hline : Command.ofLine line.toList with
  | error rejection =>
    cases strict with
    | true => exact .inr ⟨_, rfl, rfl, rejection, rfl⟩
    | false => exact .inl ⟨rfl, nofun⟩
  | ok asked =>
    refine .inl ⟨?_, fun _ => ⟨asked, rfl⟩⟩
    cases asked with
    | none => rfl
    | some command =>
      cases command with
      | stop => exact absurd hline hstop
      | read | print | combine => rfl

/-- **A script stops an idle session exactly if it reaches a line that asks to stop.** -/
theorem phase_runFrom_eq_terminated_iff {s : Session} (hs : s.phase = .idle) (strict : Bool)
    (number : Nat) (inputs : List InputLine) :
    (runFrom strict number s inputs).state.phase = .terminated ↔ ReachesStop strict inputs := by
  induction inputs generalizing s number with
  | nil => exact iff_of_false (Session.phase_ne_terminated_of_idle hs) nofun
  | cons input inputs ih =>
    cases input with
    | error cause => exact iff_of_false (Session.phase_ne_terminated_of_idle hs) nofun
    | ok line =>
      by_cases hskip : Skipped line.toList
      · have hrun := runLine_of_skipped (s := s) strict number hskip
        simp only [runFrom, take, hrun]
        rw [reachesStop_cons_iff (fun _ => .inl hskip) fun hnot => absurd hskip hnot]
        exact ih hs (number + 1)
      -- The line is executed: it stops the session, it is passed on the way to one that may, or it
      -- ends a strict script before any does.
      have hidle : (s.echo (String.ofList (trim line.toList))).state.phase = .idle :=
        (Session.phase_emit s _ _).trans hs
      have hphase := Session.phase_executeLine_eq_terminated_iff hidle line
      rw [← phase_runLine strict number s hskip] at hphase
      by_cases hstop : AsksToStop line
      · have hanswer := answer_runLine_of_stop strict number hs hskip hstop
        simp only [runFrom, take, hanswer]
        exact iff_of_true (hphase.2 hstop) (.here hskip hstop)
      rcases answer_runLine_of_not_asksToStop strict number hs hskip hstop with
        ⟨hanswer, hpast⟩ | ⟨result, hanswer, hstrict, rejection, hline⟩
      · have hgoes : (runLine strict number s line).state.phase = .idle := by
          cases hend : (runLine strict number s line).state.phase with
          | idle => rfl
          | terminated => exact absurd (hphase.1 hend) hstop
        simp only [runFrom, take, hanswer]
        rw [reachesStop_cons_iff (fun hstrict => .inr (hpast hstrict)) fun _ => hstop]
        exact ih hgoes (number + 1)
      · simp only [runFrom, take, hanswer]
        refine iff_of_false (fun hend => hstop (hphase.1 hend)) fun hreaches => ?_
        cases hreaches with
        | here _ hasks => exact hstop hasks
        | past hpast _ =>
          rcases hpast hstrict with h | ⟨asked, h⟩
          · exact hskip h
          · cases hline.symm.trans h

end Script

namespace Session

/-- The calls that stop an idle session. -/
def Call.Stops : Call → Prop
  | .execute command => command = .stop
  | .executeLine line => AsksToStop line
  | .feed line => AsksToStop line
  | .runLines strict lines => Script.ReachesStop strict lines
  | .runScript strict _ opened => ∃ file, opened = .ok file ∧ Script.ReachesStop strict file.lines
  | .echo _ | .report _ | .clear => False

/-- **What stops an idle session** is a call that asks to stop, or a script that reaches such a
line. -/
theorem phase_call_eq_terminated_iff {s : Session} (hs : s.phase = .idle) (call : Call) :
    (s.call call).state.phase = .terminated ↔ call.Stops := by
  cases call with
  | execute command =>
    simp only [Session.call, Session.execute, hs, Call.Stops]
    exact phase_perform_eq_terminated_iff hs command
  | executeLine line => exact phase_executeLine_eq_terminated_iff hs line
  | feed line =>
    have hphase := phase_executeLine_eq_terminated_iff hs line
    rwa [← phase_feed_eq] at hphase
  | echo line =>
    exact iff_of_false (phase_ne_terminated_of_idle ((phase_emit s _ _).trans hs)) id
  | report refusal =>
    exact iff_of_false (phase_ne_terminated_of_idle ((phase_emit s _ _).trans hs)) id
  | clear => exact iff_of_false (phase_ne_terminated_of_idle hs) id
  | runLines strict lines => exact Script.phase_runFrom_eq_terminated_iff hs strict 1 lines
  | runScript strict path opened =>
    cases opened with
    | error cause =>
      refine iff_of_false (phase_ne_terminated_of_idle hs) ?_
      rintro ⟨file, hfile, -⟩
      cases hfile
    | ok opened =>
      refine (Script.phase_runFrom_eq_terminated_iff hs strict 1 opened.lines).trans
        ⟨fun h => ⟨opened, rfl, h⟩, ?_⟩
      rintro ⟨file, hfile, hreaches⟩
      cases hfile
      exact hreaches

/-- **To be stopped is final.** Make any calls of a session. If it was stopped before them, it stays
stopped with the same registers. It then declines every further call but the one to forget its
items: what it shows are echoes and reports, no line and no command is answered by `Flow.stop`, a
line that is fed is answered so exactly if it is a command, and no script ends well. If the session
is idle after the calls, a further call stops it exactly if it brings the command to stop, in a line
that asks for it, or in a script that reaches such a line. And no calls stop a session more than
once. -/
theorem stopping_is_final (s : Session) (calls : List Call) :
    let t := (s.callAll calls).state
    (s.phase = .terminated →
      t.phase = .terminated ∧ t.registers = s.registers ∧
      (∀ call ≠ Call.clear, ∃ items, Declines call (t.call call).answer items ∧
        (t.call call).OnlyShows t items ∧ ∀ item ∈ items, IsEcho item ∨ IsReport item) ∧
      (∀ command, (t.execute command).answer ≠ .ok .stop) ∧
      (∀ line, (t.executeLine line).answer ≠ .ok .stop) ∧
      (∀ line, (t.feed line).answer = .stop ↔
        ∃ keyword, Verdict.ofLine line.toList = .ok (.accept keyword)) ∧
      ∀ strict lines, (Script.runLines strict t lines).answer ≠ .ok ()) ∧
    (t.phase = .idle → ∀ call, (t.call call).state.phase = .terminated ↔ call.Stops) ∧
    (s.callAll calls).Turns s := by
  intro t
  refine ⟨fun hs => ?_, fun ht => phase_call_eq_terminated_iff ht, turns_callAll s calls⟩
  obtain ⟨ht, hregisters⟩ := callAll_of_stopped hs calls
  refine ⟨ht, hregisters, ?_, ?_, ?_, answer_feed_eq_stop_iff_accept ht, ?_⟩
  · intro call hclear
    obtain ⟨items, hdeclines, hshows⟩ := call_of_stopped ht hclear
    exact ⟨items, hdeclines, hshows, hdeclines.isEcho_or_isReport⟩
  · intro command
    rw [execute_terminated ht]
    exact nofun
  · intro line
    rw [executeLine_of_stopped ht]
    exact lateAnswer_ne_stop line
  · intro strict lines
    exact (Script.runFrom_of_stopped ht strict 1 lines).1

/-- A session is stopped by a script, on a line after one that is rejected. It is then handed a
script with another valid stop, which fails. -/
theorem stopping_is_final_second_script :
    let script := Call.runLines false [.ok "# sets", .ok "print_set SETG", .ok "stop"]
    let s := (Session.captured.call (.execute (.read .a [5]))).state
    let stopped := (s.call script).state
    let t := (stopped.callAll [script, .echo "late"]).state
    script.Stops ∧ stopped.phase = .terminated ∧ t.phase = .terminated ∧
    t.registers = s.registers ∧ (∃ items, (t.call script).OnlyShows t items) ∧
    (Script.runLines false t [.ok "stop"]).answer ≠ .ok () ∧
    (t.feed "stop").answer = .stop ∧ ¬ (t.feed "stop SETA").answer = .stop ∧
    stops (s.callAll [script, script, script]).events = 1 := by
  intro script s stopped t
  obtain ⟨-, hstops, -⟩ := stopping_is_final s []
  obtain ⟨hfinal, -, -⟩ := stopping_is_final stopped [script, .echo "late"]
  obtain ⟨-, -, honce⟩ := stopping_is_final s [script, script, script]
  have hstopped : stopped.phase = .terminated := by decide +kernel
  obtain ⟨ht, hregisters, hdeclines, -, -, hfeed, hfails⟩ := hfinal hstopped
  obtain ⟨items, -, hshows, -⟩ := hdeclines script nofun
  refine ⟨(hstops rfl script).1 hstopped, hstopped, ht, hregisters.trans (by decide +kernel),
    ⟨items, hshows⟩, hfails false _, (hfeed "stop").2 ⟨.stop, by decide +kernel⟩, ?_, ?_⟩
  · rw [hfeed]
    rintro ⟨keyword, hverdict⟩
    have hrejected : (Verdict.ofLine "stop SETA".toList).isOk = false := by decide +kernel
    rw [hverdict] at hrejected
    cases hrejected
  · cases honce with
    | stays hphase =>
      have hidle : s.phase = .idle := rfl
      have hend : (s.callAll [script, script, script]).state.phase = .terminated := by
        decide +kernel
      cases hidle.symm.trans (hphase.symm.trans hend)
    | stopped _ _ hone => exact hone

end Session

end SetCalculator
