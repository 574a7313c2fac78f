import SetCalculator.Proofs.Program.Legible
import SetCalculator.Proofs.Program.Outcome

/-!
# The log only observes

A run does the same whatever is logged of it: the settings of the log are quoted by its first record
and have no other part in what happens (`runWith_settings`). So the filters of two runs that differ
in these settings choose from the same records (`loggedBy_eq`), and what one of them shows more than
the other is decided record by record.

Of what the editor of the prompt logs, only the records about a history file are covered. The rest
shows only if all components are selected, with debug detail or more.
-/

namespace SetCalculator.Program

open Log Text

/-- The records that a run shows, without those about the log itself. -/
def loggedBy (reader : LineReader) (given : Invocation) : List Record :=
  (shownRecords (filter given) (runWith reader given).events).filter (·.component ≠ .logging)

section

variable (reader : LineReader) (given : Invocation)

/-- **The settings of the log decide its filter alone**: the status, the directory and the events
behind the opening record are the same under all of them. -/
theorem runWith_settings : ∃ status events directory, ∀ components verbosity : Option String,
    runWith reader { given with components, verbosity } =
      ⟨status, .logged (Filter.ofSettings components verbosity).opening :: events, directory⟩ :=
  ⟨(runWith reader given).status, (runWith reader given).events.tail,
    (runWith reader given).directory, fun _ _ => rfl⟩

/-- All settings choose from the same records. -/
theorem loggedBy_eq : ∃ records : List Record, ∀ components verbosity : Option String,
    loggedBy reader { given with components, verbosity } =
      records.filter (Filter.ofSettings components verbosity).shows := by
  obtain ⟨status, events, directory, hrun⟩ := runWith_settings reader given
  refine ⟨(events.filterMap Event.record?).filter (·.component ≠ .logging),
    fun components verbosity => ?_⟩
  have hevents : (shownRecords (Filter.ofSettings components verbosity) events).filter
      (·.component ≠ .logging) =
        ((events.filterMap Event.record?).filter (·.component ≠ .logging)).filter
          (Filter.ofSettings components verbosity).shows :=
    List.filter_comm _ _ _
  rw [loggedBy, hrun, filter, shownRecords_logged_cons, ← hevents]
  split
  · exact List.filter_cons_of_neg (by simp [Filter.opening])
  · rfl

/-- **More verbosity shows more of the same log.** -/
theorem loggedBy_sublist {v w : Nat} (hvw : v ≤ w) (hw : w ≤ 3) :
    (loggedBy reader { given with verbosity := some (toString v) }).Sublist
      (loggedBy reader { given with verbosity := some (toString w) }) := by
  obtain ⟨records, hlogged⟩ := loggedBy_eq reader given
  rw [hlogged given.components, hlogged given.components]
  exact List.monotone_filter_right records fun r hshows => shows_of_le hvw hw hshows

/-- **A list of components** shows the part of the whole log that belongs to them. -/
theorem loggedBy_listing {cs : List Component} (h : ∀ c ∈ cs, c ∈ Component.all) {word : String}
    (hword : word ∈ ["*", "1", "true"]) :
    loggedBy reader { given with components := some (listing cs) } =
      (loggedBy reader { given with components := some word }).filter (·.component ∈ cs) := by
  obtain ⟨records, hlogged⟩ := loggedBy_eq reader given
  rw [hlogged _ given.verbosity, hlogged _ given.verbosity, List.filter_filter]
  refine List.filter_congr fun r _ => ?_
  rw [shows_listing h hword, Bool.and_comm]

end

/-- **Logging is observation only.** A run with a log leaves the same status, directory and output
as the run without one. Without the lines of the records that are shown, its diagnostics are those
of the run without a log; if nothing that is quoted as it is has a line feed, then these lines can
be told by their looks. With more verbosity the records of a run are shown among others, and a list
of components shows just the records that belong to them. -/
theorem log_only_observes (reader : LineReader) {given : Invocation} {options : Options}
    (hparse : CommandLine.parse given.arguments = .ok options) :
    let outcome := runWith reader given
    let shown := shownRecords (filter given) outcome.events
    let off : Invocation := { given with components := none }
    let unlogged := runWith reader off
    (outcome.status = unlogged.status ∧ outcome.directory = unlogged.directory ∧
      outcomeText given outcome .output = outcomeText off unlogged .output) ∧
    Deletes shown (outcomeText given outcome .diagnostics)
      (outcomeText off unlogged .diagnostics) ∧
    (Offered given.components → (∀ path, options.script = some path → OneLine path) →
      (∀ path, options.history = some path → OneLine path) → FailsOnLines (reader given.input) →
      let lines := endedLines (outcomeText given outcome .diagnostics)
      lines.filter isLogLine = shown.map Record.render ∧
      (lines.filter fun line => !isLogLine line) =
        endedLines (outcomeText off unlogged .diagnostics)) ∧
    (∀ v w : Nat, v ≤ w → w ≤ 3 →
      (loggedBy reader { given with verbosity := some (toString v) }).Sublist
        (loggedBy reader { given with verbosity := some (toString w) })) ∧
    ∀ cs : List Component, (∀ c ∈ cs, c ∈ Component.all) → ∀ word ∈ ["*", "1", "true"],
      loggedBy reader { given with components := some (listing cs) } =
        (loggedBy reader { given with components := some word }).filter (·.component ∈ cs) := by
  intro outcome shown off unlogged
  obtain ⟨status, events, directory, hrun⟩ := runWith_settings reader given
  have hon : outcome = ⟨status, .logged (filter given).opening :: events, directory⟩ :=
    hrun given.components given.verbosity
  have hoff : unlogged = ⟨status, .logged (filter off).opening :: events, directory⟩ :=
    hrun none given.verbosity
  -- The two runs differ in their opening record alone, and it is not printed.
  have hprinted : printed outcome.events = printed unlogged.events := by
    rw [hon, hoff, printed_logged_cons, printed_logged_cons]
  have htext : ∀ stream,
      outcomeText off unlogged stream = textOn stream (printed outcome.events) := by
    intro stream
    rw [hprinted]
    exact outcomeText_of_nothing rfl unlogged stream
  refine ⟨⟨by rw [hon, hoff], by rw [hon, hoff], ?_⟩, ?_, ?_, ?_, ?_⟩
  · rw [htext]
    exact written_output _ _
  · rw [htext]
    exact written_deletes _ _
  · intro hoffered hscript hhistory hreader
    obtain ⟨hlog, hother⟩ := filter_isLogLine_of_legible (filter given)
      (runWith_legible hparse hscript hhistory hreader hoffered)
    rw [htext]
    exact ⟨hlog, hother⟩
  · exact fun v w hvw hw => loggedBy_sublist reader given hvw hw
  · exact fun cs hcs word hword => loggedBy_listing reader given hcs hword

/-- A script with a line that is rejected, and a log of the two components that see it. -/
theorem log_only_observes_rejected_line :
    let given : Invocation :=
      ⟨["--script", "sets.txt"], [], ⟨[("sets.txt", encode "print_set SETG\nstop\n")]⟩,
        some "session,validate", some "2"⟩
    let off : Invocation := { given with components := none }
    let lines := endedLines (outcomeText given (run given) .diagnostics)
    CommandLine.parse given.arguments = .ok ⟨some "sets.txt", false, false, false, none⟩ ∧
    (run given).status = (run off).status ∧
    lines.filter isLogLine =
      ["DEBUG validate: rejected line=\"print_set SETG\" reason=InvalidRegisterName",
        "DEBUG validate: accepted operation=stop",
        "DEBUG session: execute operation=stop",
        " INFO session: stopped"] ∧
    (lines.filter fun line => !isLogLine line) = ["Error: Invalid set name."] ∧
    outcomeText off (run off) .diagnostics = "Error: Invalid set name.\n" := by
  intro given off lines
  have hparse : CommandLine.parse given.arguments =
      .ok ⟨some "sets.txt", false, false, false, none⟩ := by
    decide +kernel
  have hoffered : Offered given.components := @Offered.listed [.session, .verdicts] (by decide)
  have hscript : ∀ path, some "sets.txt" = some path → OneLine path := by
    rintro path ⟨⟩
    decide
  obtain ⟨⟨hstatus, -, -⟩, -, hlines, -, -⟩ := log_only_observes inputLines hparse
  obtain ⟨hlog, hother⟩ := hlines hoffered hscript (fun _ h => nomatch h)
    (failsOnLines_inputLines given.input)
  exact ⟨hparse, hstatus, hlog.trans (by decide +kernel), hother.trans (by decide +kernel),
    by decide +kernel⟩

end SetCalculator.Program
