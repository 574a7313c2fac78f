import SetCalculator.Program
import SetCalculator.Proofs.Directory.Errors
import SetCalculator.Proofs.Log.Selection
import SetCalculator.Proofs.Session.Legible
import SetCalculator.Proofs.Text.PhysicalLine

/-!
# Runs that are legible

What a run writes to the diagnostics can be told from its log by looking at the lines
(`runWith_legible`). Not quoted are the paths that the run is given, the settings of the log, and
the reasons why a line could not be read; they must not have a line feed. The lines of a history
file are not quoted either, but they are physical lines (`oneLine_of_mem_inputLines`), and the
errors of a directory are known.

There is one lemma for each function. That of a step says that its events are legible and its
failure, if it ends with one, can be reported; `Step.EndsLegible` says so of a whole script or
prompt, and is shown by induction over the lines.
-/

namespace SetCalculator

open Text Log

/-! ## Ends -/

/-- The message of the failure and those of its causes are on one line each. -/
def Failure.OnLines (failure : Failure) : Prop :=
  ∀ text ∈ failure.chain.1 :: failure.chain.2, OneLine text

/-- Lines none of which looks like the log make a text without lines of the log. -/
theorem noLogLine_join {text : String} {lines : List String} (htext : NoLogLine text)
    (h : ∀ line ∈ lines, ∃ rest, line = "\n" ++ rest ∧ NoLogLine rest) :
    NoLogLine (text ++ String.join lines) := by
  induction lines generalizing text with
  | nil => simpa using htext
  | cons line lines ih =>
    obtain ⟨⟨rest, rfl, hrest⟩, hlines⟩ := List.forall_mem_cons.1 h
    have hmore := ih (noLogLine_append_lineFeed.2 ⟨htext, hrest⟩) hlines
    rw [String.join_cons]
    simpa only [String.append_assoc] using hmore

/-- Without causes the report is the message. -/
theorem reportCauses_nil : Failure.reportCauses [] = "" := rfl

/-- A single cause stands on a line of its own, without a number. -/
theorem reportCauses_singleton (cause : String) :
    Failure.reportCauses [cause] = "\n\nCaused by:\n    " ++ cause := rfl

/-- Several causes are numbered, each on a line of its own. -/
theorem reportCauses_cons_cons (first second : String) (causes : List String) :
    Failure.reportCauses (first :: second :: causes) =
      "\n\nCaused by:" ++ String.join ((first :: second :: causes).mapIdx fun i cause =>
        "\n    " ++ toString i ++ ": " ++ cause) := rfl

/-- Causes on one line each add no line to a report that looks like a record. -/
theorem noLogLine_reportCauses {text : String} {causes : List String} (htext : NoLogLine text)
    (h : ∀ cause ∈ causes, OneLine cause) : NoLogLine (text ++ Failure.reportCauses causes) := by
  -- A cause is indented by more than a label is.
  have hindent : ∀ {line : String}, OneLine line → NoLogLine ("    " ++ line) := fun {line} hline =>
    noLogLine_of_oneLine (oneLine_append.2 ⟨by decide, hline⟩)
      (isLogLine_append_eq_false (by decide) line)
  have hcaused : NoLogLine (text ++ "\n" ++ "" ++ "\n" ++ "Caused by:") := by
    rw [noLogLine_append_lineFeed, noLogLine_append_lineFeed]
    exact ⟨⟨htext, noLogLine_of_oneLine (by decide) (isLogLine_eq_false (by decide))⟩,
      noLogLine_of_oneLine (by decide) (isLogLine_eq_false (by decide))⟩
  match causes with
  | [] =>
    rw [reportCauses_nil, String.append_empty]
    exact htext
  | [cause] =>
    have hline : text ++ Failure.reportCauses [cause] =
        text ++ "\n" ++ "" ++ "\n" ++ "Caused by:" ++ "\n" ++ ("    " ++ cause) := by
      simp [reportCauses_singleton, String.ext_iff, String.toList_append]
    rw [hline]
    exact noLogLine_append_lineFeed.2 ⟨hcaused, hindent (h cause List.mem_cons_self)⟩
  | first :: second :: causes =>
    have hlines : text ++ Failure.reportCauses (first :: second :: causes) =
        text ++ "\n" ++ "" ++ "\n" ++ "Caused by:" ++ String.join
          ((first :: second :: causes).mapIdx fun i cause =>
            "\n    " ++ toString i ++ ": " ++ cause) := by
      simp [reportCauses_cons_cons, String.ext_iff, String.toList_append]
    rw [hlines]
    refine noLogLine_join hcaused fun line hline => ?_
    obtain ⟨i, hi, rfl⟩ := List.mem_mapIdx.1 hline
    refine ⟨"    " ++ (toString i ++ ": " ++ (first :: second :: causes)[i]), ?_, hindent ?_⟩
    · simp [String.ext_iff, String.toList_append]
    · simp only [oneLine_append, oneLine_toString, true_and]
      exact ⟨by decide, h _ (List.getElem_mem hi)⟩

/-- The report of a failure whose texts are on one line each has no line that looks like a
record. -/
theorem Failure.OnLines.noLogLine_report {failure : Failure} (h : failure.OnLines) :
    NoLogLine failure.report := by
  obtain ⟨hmessage, hcauses⟩ := List.forall_mem_cons.1 h
  exact noLogLine_reportCauses (noLogLine_error hmessage) hcauses

/-- Every failure to read one of these lines is told on one line. -/
def FailsOnLines (inputs : List InputLine) : Prop :=
  ∀ input ∈ inputs, ∀ cause : ReadFailure, input = .error cause → OneLine cause.message

/-- Of bytes, the only failure is that they are no text. -/
theorem failsOnLines_inputLines (bytes : List UInt8) : FailsOnLines (inputLines bytes) := by
  intro input hinput cause hcause
  rcases mem_inputLines hinput with rfl | ⟨piece, -, line, -, rfl⟩
  · cases hcause
    decide
  · cases hcause

/-- Of what is opened, too, every failure is told on one line; a directory fails at once. -/
theorem failsOnLines_lines (opened : Opened) : FailsOnLines opened.lines := by
  cases opened with
  | file contents => exact failsOnLines_inputLines contents
  | directory =>
    refine List.forall_mem_singleton.2 fun cause hcause => ?_
    cases hcause
    decide

/-- The message of a known error is on one line. -/
theorem oneLine_message_of_known {cause : SystemError} (h : cause ∈ SystemError.known) :
    OneLine cause.message := by
  have hall : ∀ cause ∈ SystemError.known, OneLine cause.message := by decide
  exact hall cause h

/-- What a script or a prompt does, up to the report of its failure, is legible. -/
def Step.EndsLegible {σ : Type} (done : Step σ (Except Failure Unit)) : Prop :=
  ∀ event ∈ done.events ++ (Program.ending done.answer).2, event.Legible

namespace Step.EndsLegible

variable {σ : Type} {done : Step σ (Except Failure Unit)} {events : List Event} {state : σ}

/-- Legible events may come before what ends legibly. -/
theorem after (h : done.EndsLegible) (hevents : ∀ event ∈ events, event.Legible) :
    (done.after events).EndsLegible := by
  rw [EndsLegible, Step.after, List.append_assoc]
  exact List.forall_mem_append.2 ⟨hevents, h⟩

/-- What ends well is legible if its events are. -/
theorem ok (hevents : ∀ event ∈ events, event.Legible) :
    EndsLegible (⟨.ok (), state, events⟩ : Step σ (Except Failure Unit)) :=
  List.forall_mem_append.2 ⟨hevents, List.forall_mem_nil _⟩

/-- What fails is legible if its events are and its failure is told on lines of its own. -/
theorem error {failure : Failure} (h : failure.OnLines)
    (hevents : ∀ event ∈ events, event.Legible) :
    EndsLegible (⟨.error failure, state, events⟩ : Step σ (Except Failure Unit)) :=
  List.forall_mem_append.2 ⟨hevents, List.forall_mem_singleton.2 h.noLogLine_report⟩

/-- A step with legible events ends legibly if the failure it may answer is reported legibly. -/
theorem of_answer {answer : Except Failure Unit}
    (hfailure : ∀ failure, answer = .error failure → failure.OnLines)
    (hevents : ∀ event ∈ events, event.Legible) :
    EndsLegible (⟨answer, state, events⟩ : Step σ (Except Failure Unit)) := by
  cases answer with
  | ok => exact ok hevents
  | error failure => exact error (hfailure failure rfl) hevents

end Step.EndsLegible

/-- A missing end is told on one line. -/
theorem Failure.onLines_missingStop : missingStop.OnLines :=
  List.forall_mem_singleton.2 (by decide)

/-- That a script was aborted is told on one line: of the line that was rejected it quotes the
number alone. -/
theorem Failure.onLines_abortedLine (number : Nat) : (abortedLine number).OnLines := by
  have hnumber := oneLine_toString number
  have hmessage : OneLine ("Line " ++ toString number ++ ": aborted on rejected command") := by
    simp only [oneLine_append, hnumber, and_true]
    decide
  exact List.forall_mem_singleton.2 hmessage

/-- That a line of a script cannot be read is told on two lines, with the cause. -/
theorem Failure.onLines_unreadableLine (number : Nat) {cause : ReadFailure}
    (h : OneLine cause.message) : (unreadableLine number cause).OnLines := by
  have hmessage : OneLine ("Error reading line " ++ toString number) :=
    oneLine_append.2 ⟨by decide, oneLine_toString number⟩
  exact List.forall_mem_cons.2 ⟨hmessage, List.forall_mem_singleton.2 h⟩

/-- That a line at the prompt cannot be read is told with its cause and the cause of that. -/
theorem Failure.onLines_unreadableInput {cause : ReadFailure} (h : OneLine cause.message) :
    (unreadableInput cause).OnLines := by
  have hmessage : OneLine "Failed to read input" := by decide
  exact List.forall_mem_cons.2 ⟨hmessage, List.forall_mem_cons.2 ⟨h, List.forall_mem_singleton.2 h⟩⟩

/-- That a script cannot be opened is told on two lines, if its path has no line feed. -/
theorem Failure.onLines_cannotOpen {path : String} (hpath : OneLine path) {cause : SystemError}
    (h : cause ∈ SystemError.known) : (cannotOpen path cause).OnLines := by
  have hmessage : OneLine ("Failed to open script " ++ path) := oneLine_append.2 ⟨by decide, hpath⟩
  exact List.forall_mem_cons.2 ⟨hmessage, List.forall_mem_singleton.2 (oneLine_message_of_known h)⟩

/-! ## Scripts -/

namespace Script

/-- **One line of a script** is legible: it is echoed and executed, and logged by its number alone
if it is rejected. -/
theorem legible_runLine (strict : Bool) (number : Nat) (s : Session) (line : String) :
    (∀ event ∈ (runLine strict number s line).events, event.Legible) ∧
    ∀ failure, (runLine strict number s line).answer = some (.error failure) →
      failure.OnLines := by
  simp only [runLine]
  split
  · exact ⟨List.forall_mem_nil _, fun _ h => nomatch h⟩
  have hboth := List.forall_mem_append.2
    ⟨s.legible_emit_output ("> " ++ String.ofList (trim line.toList)),
      (s.echo (String.ofList (trim line.toList))).state.legible_executeLine line⟩
  split
  · exact ⟨hboth, fun _ h => nomatch h⟩
  · exact ⟨hboth, fun _ h => nomatch h⟩
  · next refusal _ =>
    refine ⟨?_, ?_⟩
    · have hrecord := oneLine_render_singleton .warn .script (by decide : OneLine "rejected")
        (by decide : OneLine "line") (oneLine_toString number)
      exact List.forall_mem_append.2
        ⟨hboth, List.forall_mem_cons.2 ⟨hrecord, Session.legible_report _ _⟩⟩
    · intro failure hfailure
      cases strict with
      | false => cases hfailure
      | true =>
        cases hfailure
        exact Failure.onLines_abortedLine number

/-- A line of a script is legible, also one that cannot be read. -/
theorem legible_take (strict : Bool) (number : Nat) (s : Session) {input : InputLine}
    (hinput : ∀ cause : ReadFailure, input = .error cause → OneLine cause.message) :
    (∀ event ∈ (take strict number s input).events, event.Legible) ∧
    ∀ failure, (take strict number s input).answer = some (.error failure) → failure.OnLines := by
  cases input with
  | ok line => exact legible_runLine strict number s line
  | error cause =>
    refine ⟨List.forall_mem_nil _, fun failure hfailure => ?_⟩
    cases hfailure
    exact Failure.onLines_unreadableLine number (hinput cause rfl)

/-- **The lines of a script end legibly**, by induction over them. -/
theorem endsLegible_runFrom (strict : Bool) {inputs : List InputLine} (h : FailsOnLines inputs)
    (number : Nat) (s : Session) : (runFrom strict number s inputs).EndsLegible := by
  induction inputs generalizing number s with
  | nil => exact .error Failure.onLines_missingStop (List.forall_mem_nil _)
  | cons input inputs ih =>
    obtain ⟨hinput, hinputs⟩ := List.forall_mem_cons.1 h
    obtain ⟨hevents, hfailure⟩ := legible_take strict number s hinput
    rw [runFrom]
    split
    · next result hresult =>
      exact .of_answer (fun failure h => hfailure failure (h ▸ hresult)) hevents
    · exact (ih hinputs _ _).after hevents

/-- A whole script ends legibly, whether it can be opened or not. -/
theorem endsLegible_run (strict : Bool) (s : Session) {path : String} (hpath : OneLine path)
    {opened : Except SystemError Opened}
    (hopened : ∀ cause, opened = .error cause → cause ∈ SystemError.known) :
    (run strict s path opened).EndsLegible := by
  cases opened with
  | error cause =>
    exact .error (Failure.onLines_cannotOpen hpath (hopened cause rfl)) (List.forall_mem_nil _)
  | ok opened =>
    have hstrict : OneLine (toString strict) := by cases strict <;> decide
    refine (endsLegible_runFrom strict (failsOnLines_lines opened) 1 s).after ?_
    exact List.forall_mem_singleton.2
      (oneLine_render_pair .info .script (by decide) ⟨by decide, hpath⟩ ⟨by decide, hstrict⟩)

end Script

/-! ## History files -/

namespace History

/-- Physical lines have no line feed. -/
theorem oneLine_of_mem_inputLines {bytes : List UInt8} {line : String}
    (h : .ok line ∈ inputLines bytes) : OneLine line := by
  rcases mem_inputLines h with herror | ⟨piece, hpiece, line, hdecode, hline⟩
  · cases herror
  · cases hline
    exact notMem_of_decode? hdecode ((splitsInto_physicalLines bytes).notMem piece hpiece)

/-- Reading an entry logs at most that it is badly escaped, and quotes it. -/
theorem oneLine_readEntry (escaped : Bool) {line : String} (h : OneLine line) :
    ∀ r ∈ (readEntry escaped line).2, OneLine r.render := by
  unfold readEntry
  split
  · split
    · exact List.forall_mem_nil _
    · have hmessage : OneLine ("bad escaped line: " ++ line) := oneLine_append.2 ⟨by decide, h⟩
      exact List.forall_mem_singleton.2
        (oneLine_render .warn .editor hmessage (List.forall_mem_nil _))
  · exact List.forall_mem_nil _

/-- Loading entries logs what reading each of them does, behind what was logged before. -/
theorem oneLine_loadEntries (escaped : Bool) {lines : List InputLine}
    (h : ∀ line : String, .ok line ∈ lines → OneLine line) {loaded : Loaded}
    (hloaded : ∀ r ∈ loaded.records, OneLine r.render) :
    ∀ r ∈ (loadEntries escaped loaded lines).records, OneLine r.render := by
  induction lines generalizing loaded with
  | nil => exact hloaded
  | cons input lines ih =>
    cases input with
    | error cause => exact hloaded
    | ok line =>
      have hline := oneLine_readEntry escaped (h line List.mem_cons_self)
      exact ih (fun line hmem => h line (List.mem_cons_of_mem _ hmem))
        (List.forall_mem_append.2 ⟨hloaded, hline⟩)

/-- Loading the lines of a file logs what loading its entries does; the first line only tells
whether they are escaped. -/
theorem oneLine_loadLines {lines : List InputLine}
    (h : ∀ line : String, .ok line ∈ lines → OneLine line) :
    ∀ r ∈ (loadLines lines).records, OneLine r.render := by
  cases lines with
  | nil => exact List.forall_mem_nil _
  | cons input lines =>
    have hlines : ∀ line : String, .ok line ∈ lines → OneLine line :=
      fun line hmem => h line (List.mem_cons_of_mem _ hmem)
    cases input with
    | error cause => exact List.forall_mem_nil _
    | ok first =>
      rw [loadLines]
      split
      · exact oneLine_loadEntries true hlines (List.forall_mem_nil _)
      · exact oneLine_loadEntries false hlines (List.forall_mem_nil _)

/-- What is logged about a file that is opened is what is logged about its lines. -/
theorem records_load (opened : Opened) :
    (load (.ok opened)).records = (loadLines opened.lines).records := by
  simp only [load]
  split
  · rfl
  · rfl

/-- The records about a file are on one line each, whatever is in the file. -/
theorem oneLine_load (opened : Except SystemError Opened) :
    ∀ r ∈ (load opened).records, OneLine r.render := by
  rcases opened with cause | (contents | _)
  · exact List.forall_mem_nil _
  · rw [records_load]
    exact oneLine_loadLines fun _ => oneLine_of_mem_inputLines
  · exact List.forall_mem_nil _

end History

/-! ## The prompt -/

namespace Prompt

/-- The start of a prompt shows the banner and logs what it loads; a file that is missing is logged
by its path. -/
theorem legible_start (s : Session) (withBanner : Bool) (directory : Directory)
    {file : Option String} (hpath : ∀ path, file = some path → OneLine path) :
    ∀ event ∈ (start s withBanner (file.map fun path => (path, directory.read path))).events,
      event.Legible := by
  have hshown : ∀ event ∈ (if withBanner then [Event.printed .output banner] else []),
      event.Legible := by
    split
    · exact List.forall_mem_singleton.2 trivial
    · exact List.forall_mem_nil _
  cases file with
  | none => exact hshown
  | some path =>
    have hmissing := oneLine_render_singleton .debug .prompt
      (by decide : OneLine "no previous history") (by decide : OneLine "path") (hpath path rfl)
    refine List.forall_mem_append.2 ⟨List.forall_mem_map.2 ?_, hshown⟩
    refine List.forall_mem_append.2 ⟨History.oneLine_load (directory.read path), ?_⟩
    split
    · exact List.forall_mem_nil _
    · exact List.forall_mem_singleton.2 hmissing

/-- A line at the prompt is echoed if that is wanted, and fed to the session. -/
theorem legible_accept (echoing : Bool) (p : Prompt) (line : String) :
    ∀ event ∈ (accept echoing p line).events, event.Legible := by
  refine List.forall_mem_append.2 ⟨?_, Session.legible_feed _ line⟩
  cases echoing with
  | false => exact List.forall_mem_nil _
  | true => exact p.session.legible_emit_output _

/-- **One line at the prompt** is legible, also one that cannot be read. -/
theorem legible_take (echoing : Bool) (p : Prompt) {input : InputLine}
    (hinput : ∀ cause : ReadFailure, input = .error cause → OneLine cause.message) :
    (∀ event ∈ (take echoing p input).events, event.Legible) ∧
    ∀ failure, (take echoing p input).answer = some (.error failure) → failure.OnLines := by
  cases input with
  | ok line =>
    have hevents := legible_accept echoing p line
    simp only [take]
    split
    · exact ⟨hevents, fun _ h => nomatch h⟩
    · exact ⟨hevents, fun _ h => nomatch h⟩
  | error cause =>
    refine ⟨List.forall_mem_nil _, fun failure hfailure => ?_⟩
    cases hfailure
    exact Failure.onLines_unreadableInput (hinput cause rfl)

/-- **The prompt ends legibly**, by induction over its lines. -/
theorem endsLegible_run (echoing : Bool) {inputs : List InputLine} (h : FailsOnLines inputs)
    (p : Prompt) : (run echoing p inputs).EndsLegible := by
  induction inputs generalizing p with
  | nil => exact .error Failure.onLines_missingStop (List.forall_mem_nil _)
  | cons input inputs ih =>
    obtain ⟨hinput, hinputs⟩ := List.forall_mem_cons.1 h
    obtain ⟨hevents, hfailure⟩ := legible_take echoing p hinput
    rw [run]
    split
    · next result hresult =>
      exact .of_answer (fun failure h => hfailure failure (h ▸ hresult)) hevents
    · exact (ih hinputs _).after hevents

end Prompt

/-! ## Runs of the program -/

namespace Program

/-- Saving a history logs at most that it failed, by the path and a known error. -/
theorem legible_saveHistory (h : History) (directory : Directory) {file : Option String}
    (hpath : ∀ path, file = some path → OneLine path) :
    ∀ event ∈ (saveHistory h file directory).1, event.Legible := by
  cases file with
  | none => exact List.forall_mem_nil _
  | some path =>
    simp only [saveHistory]
    split
    · split
      · exact List.forall_mem_nil _
      · next cause hwrite =>
        have hcause := oneLine_message_of_known (Directory.write_error_known hwrite)
        exact List.forall_mem_singleton.2 (oneLine_render_pair .warn .prompt (by decide)
          ⟨by decide, hpath path rfl⟩ ⟨by decide, hcause⟩)
    · exact List.forall_mem_nil _

/-- A run with a script is legible if the path of the script has no line feed. -/
theorem legible_runScript (strict : Bool) {path : String} (hpath : OneLine path)
    (directory : Directory) : ∀ event ∈ (runScript strict path directory).events, event.Legible :=
  Script.endsLegible_run strict .printing hpath fun _ hread => Directory.read_error_known hread

/-- A run with a prompt is legible if the path of its history has no line feed. -/
theorem legible_runPrompt {options : Options}
    (hpath : ∀ path, options.history = some path → OneLine path) {lines : List InputLine}
    (hlines : FailsOnLines lines) (directory : Directory) :
    ∀ event ∈ (runPrompt options lines directory).events, event.Legible := by
  have hstart := Prompt.legible_start .printing (!options.quiet) directory hpath
  simp only [runPrompt]
  generalize Prompt.start .printing (!options.quiet)
    (options.history.map fun path => (path, directory.read path)) = started at hstart ⊢
  have hrun := Prompt.endsLegible_run options.echo hlines started.state
  have hsaved := legible_saveHistory
    (Prompt.run options.echo started.state lines).state.history directory hpath
  simp only [Step.EndsLegible, List.forall_mem_append] at hrun ⊢
  exact ⟨⟨⟨hstart, hrun.1⟩, hsaved⟩, hrun.2⟩

/-- **The events of a run are legible**, if what it is given has no line feed where it is quoted as
it is. -/
theorem runWith_legible {reader : LineReader} {given : Invocation} {options : Options}
    (hparse : CommandLine.parse given.arguments = .ok options)
    (hscript : ∀ path, options.script = some path → OneLine path)
    (hhistory : ∀ path, options.history = some path → OneLine path)
    (hreader : FailsOnLines (reader given.input)) (hoffered : Offered given.components) :
    ∀ event ∈ (runWith reader given).events, event.Legible := by
  have hopening : OneLine (filter given).opening.render :=
    oneLine_render_singleton .info .logging (by decide) (by decide)
      (hoffered.lineFeed_notMem_directives given.verbosity)
  simp only [runWith, hparse, runOptions]
  refine List.forall_mem_cons.2 ⟨hopening, ?_⟩
  split
  · next path hpath => exact legible_runScript options.strict (hscript path hpath) given.directory
  · exact legible_runPrompt hhistory hreader given.directory

end Program

end SetCalculator
