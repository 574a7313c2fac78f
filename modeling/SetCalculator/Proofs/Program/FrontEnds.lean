import SetCalculator.Proofs.Line.Spacing
import SetCalculator.Proofs.Program.Arguments
import SetCalculator.Proofs.Prompt.Conversation
import SetCalculator.Proofs.Script.Cut

/-!
# A script and its lines at the prompt

A text can be run as a script, or its lines can be entered at a prompt that echoes them, trimmed and
without those that a script passes over. `script_agrees_with_prompt` says that nobody can tell the
two runs apart: both streams and the exit status are the same.

The two runs go in lockstep, and the lines that a script passes over are steps of the script alone
(`run_agrees`). A script echoes a line in its trimmed form and feeds it as it is, and the prompt is
given the trimmed form; `Command.ofLine_trim` makes the difference vanish. That the lines reach
either run as they stand in the text is a matter of the encoding (`SplitsInto.encode`) and of what
trimming leaves: no feed within a line and no return at its end (`splitsInto_enteredText`).
-/

namespace SetCalculator

open Text

namespace Script

/-- The lines that a script does not pass over, trimmed. -/
def wantedLines (lines : List (List Char)) : List (List Char) :=
  (lines.filter fun line => ¬ Skipped line).map trim

/-- What is entered at a prompt in place of running a text as a script. -/
def enteredText (text : List Char) : List Char :=
  (wantedLines (text.splitOn '\n')).flatMap (· ++ ['\n'])

/-- A line is entered trimmed, unless the script passes over it. -/
theorem wantedLines_cons (line : List Char) (lines : List (List Char)) :
    wantedLines (line :: lines) =
      if Skipped line then wantedLines lines else trim line :: wantedLines lines := by
  by_cases hskip : Skipped line
  · simp [wantedLines, hskip]
  · simp [wantedLines, hskip]

/-! ## The two runs -/

/-- **One line that is not passed over**, in a script and at an echoing prompt: the sessions stay
the same, the same is printed, and both runs end or neither does. -/
theorem take_agrees {s : Session} (hs : s.phase = .idle) (h : History) (number : Nat)
    {line : List Char} (hskip : ¬ Skipped line) :
    let script := runLine false number s (String.ofList line)
    let prompt := Prompt.take true ⟨s, h⟩ (.ok (String.ofList (trim line)))
    prompt.answer = script.answer ∧
      prompt.state = ⟨script.state, Prompt.remember h (String.ofList (trim line))⟩ ∧
      printed prompt.events = printed script.events ∧
      (script.answer = none → script.state.phase = .idle) := by
  intro script prompt
  have hskip' : ¬ Skipped (String.ofList line).toList := by rwa [String.toList_ofList]
  -- The script feeds the line itself and the prompt the trimmed one; both ask for the same.
  have hasks : Command.ofLine (String.ofList (trim line)).toList =
      Command.ofLine (String.ofList line).toList := by
    rw [String.toList_ofList, String.toList_ofList, Command.ofLine_trim]
  have hidle : (s.echo (String.ofList (trim line))).state.phase = .idle :=
    (Session.phase_emit s _ _).trans hs
  obtain ⟨hscript, hscriptPrinted⟩ := runLine_of_not_skipped (s := s) false number hskip'
  rw [String.toList_ofList] at hscript hscriptPrinted
  obtain ⟨hprompt, hpromptPrinted, hstop, hgoes⟩ :=
    Prompt.take_line hs h true (String.ofList (trim line))
  have halike := Session.feed_alike (s.echo (String.ofList (trim line))).state hasks
  have hstate : prompt.state =
      ⟨script.state, Prompt.remember h (String.ofList (trim line))⟩ := by
    rw [hscript, ← halike.state]
    exact hprompt
  have hprinted : printed prompt.events = printed script.events := by
    rw [hpromptPrinted, hscriptPrinted]
    exact congrArg _ halike.printed
  by_cases hasksToStop : AsksToStop (String.ofList line)
  · have hanswer : script.answer = some (.ok ()) :=
      answer_runLine_of_stop false number hs hskip' hasksToStop
    refine ⟨(hstop (hasks.trans hasksToStop)).trans hanswer.symm, hstate, hprinted, ?_⟩
    intro hnone
    cases hanswer.symm.trans hnone
  · have hanswer : script.answer = none :=
      answer_runLine_of_not_stop number hs hskip' hasksToStop
    have hnot : ¬ AsksToStop (String.ofList (trim line)) :=
      fun htrim => hasksToStop (hasks.symm.trans htrim)
    refine ⟨(hgoes hnot).trans hanswer.symm, hstate, hprinted, ?_⟩
    intro _
    have hphase := Session.phase_feed hidle hasksToStop
    rwa [← hscript] at hphase

/-- **The lines one after the other.** A line that a script passes over is a step of the script
alone. -/
theorem run_agrees {s : Session} (hs : s.phase = .idle) (h : History) (number : Nat)
    (lines : List (List Char)) :
    let script := runFrom false number s (lines.map fun line => .ok (String.ofList line))
    let prompt :=
      Prompt.run true ⟨s, h⟩ ((wantedLines lines).map fun line => .ok (String.ofList line))
    prompt.answer = script.answer ∧ printed prompt.events = printed script.events := by
  induction lines generalizing s h number with
  | nil => exact ⟨rfl, rfl⟩
  | cons line lines ih =>
    by_cases hskip : Skipped line
    · have hrun : runLine false number s (String.ofList line) = ⟨none, s, []⟩ :=
        runLine_of_skipped false number (by rwa [String.toList_ofList])
      rw [wantedLines_cons, if_pos hskip]
      simp only [List.map_cons, runFrom, take, hrun]
      exact ih hs h (number + 1)
    · obtain ⟨hanswer, hstate, hprinted, hidle⟩ := take_agrees hs h number hskip
      rw [wantedLines_cons, if_neg hskip]
      cases hend : (runLine false number s (String.ofList line)).answer with
      | some result =>
        simp only [List.map_cons, runFrom, take, Prompt.run, hanswer, hend]
        exact ⟨trivial, hprinted⟩
      | none =>
        obtain ⟨hanswers, hall⟩ := ih (hidle hend)
          (Prompt.remember h (String.ofList (trim line))) (number + 1)
        simp only [List.map_cons, runFrom, take, Prompt.run, hanswer, hend, hstate]
        refine ⟨hanswers, ?_⟩
        rw [Step.after, Step.after, printed_append, printed_append, hprinted, hall]

/-! ## From the text to the lines -/

/-- The return that an end of a line may hold makes no difference to what is wanted. -/
theorem wantedLines_splitOn {text : List Char} {pieces : List (List Char)}
    (h : SplitsInto '\n' '\r' text pieces) :
    wantedLines (text.splitOn '\n') = wantedLines pieces := by
  induction h with
  | nil => rfl
  | unended _ hno => rw [List.splitOn_eq_singleton hno]
  | @feed piece rest pieces hno _ _ ih =>
    rw [List.splitOn_append_cons_self_of_not_mem hno, wantedLines_cons, wantedLines_cons, ih]
  | @returnFeed piece rest pieces hno _ ih =>
    have hno' : '\n' ∉ piece ++ ['\r'] := notMem_concat hno (by decide)
    have htrim : trim (piece ++ ['\r']) = trim piece := trim_concat (by decide) piece
    have hskip : Skipped (piece ++ ['\r']) ↔ Skipped piece := by
      rw [← isSkipped_trim_iff, ← isSkipped_trim_iff, htrim]
    rw [List.append_cons, List.splitOn_append_cons_self_of_not_mem hno', wantedLines_cons,
      wantedLines_cons, htrim, ih]
    simp only [hskip]

/-- What is entered has the wanted lines. -/
theorem splitsInto_enteredText (text : List Char) :
    SplitsInto '\n' '\r' (enteredText text) (wantedLines (text.splitOn '\n')) := by
  obtain ⟨pieces, hpieces⟩ := exists_splitsInto '\n' '\r' text
  rw [enteredText, wantedLines_splitOn hpieces]
  apply splitsInto_flatMap
  intro line hline
  obtain ⟨piece, hpiece, rfl⟩ := List.mem_map.1 hline
  have hno : '\n' ∉ piece := hpieces.notMem piece (List.mem_of_mem_filter hpiece)
  constructor
  · intro hmem
    exact hno (mem_of_mem_trim hmem)
  · intro hlast
    -- A return is blank, so trimming does not leave it at the end.
    cases not_isBlank_of_getLast?_trim hlast

/-- Nothing is entered but what is in the text, and feeds. -/
theorem mem_of_mem_enteredText {text : List Char} {c : Char} (h : c ∈ enteredText text)
    (hc : c ≠ '\n') : c ∈ text := by
  obtain ⟨pieces, hpieces⟩ := exists_splitsInto '\n' '\r' text
  rw [enteredText, wantedLines_splitOn hpieces] at h
  obtain ⟨line, hline, hmem⟩ := List.mem_flatMap.1 h
  obtain ⟨piece, hpiece, rfl⟩ := List.mem_map.1 hline
  rcases List.mem_append.1 hmem with hmem | hmem
  · exact hpieces.subset piece (List.mem_of_mem_filter hpiece) (mem_of_mem_trim hmem)
  · exact absurd (List.mem_singleton.1 hmem) hc

end Script

namespace Program

/-- **A script and its lines at the prompt cannot be told apart.** With the log off, a run of the
text as a script and a run of a prompt that is given its lines write the same to either stream and
end with the same status. A reader may let backspaces edit its lines, so the text has none; a path
that looks like an option is not taken for the value of the switch. -/
theorem script_agrees_with_prompt :
    (∀ path : String, path ≠ "" → (∀ c cs, path.toList ≠ '-' :: c :: cs) →
      CommandLine.parse ["--script", path] = .ok ⟨some path, false, false, false, none⟩) ∧
    CommandLine.parse ["--quiet", "--echo"] = .ok ⟨none, false, true, true, none⟩ ∧
    ∀ (reader : LineReader) (text path : String) (script prompt : Invocation),
      reader.Plain → '\x08' ∉ text.toList →
      CommandLine.parse script.arguments = .ok ⟨some path, false, false, false, none⟩ →
      script.directory.read path = .ok (.file (encode text)) →
      CommandLine.parse prompt.arguments = .ok ⟨none, false, true, true, none⟩ →
      prompt.input = encode (String.ofList (Script.enteredText text.toList)) →
      (filter script).selection = .nothing → (filter prompt).selection = .nothing →
      (∀ stream, outcomeText script (runWith reader script) stream =
        outcomeText prompt (runWith reader prompt) stream) ∧
      (runWith reader script).status = (runWith reader prompt).status := by
  refine ⟨fun path => CommandLine.parse_script, by decide +kernel, ?_⟩
  intro reader text path script prompt hplain hback hscript hfile hprompt hinput hoff hoff'
  obtain ⟨pieces, hpieces⟩ := exists_splitsInto '\n' '\r' text.toList
  -- What either run reads, line by line.
  have hlines : inputLines (encode text) = pieces.map fun piece => .ok (String.ofList piece) := by
    have := inputLines_encode hpieces
    rwa [String.ofList_toList] at this
  have hnot : backspace ∉ prompt.input := by
    rw [hinput]
    refine notMem_encode (c := '\x08') (by decide) (by decide) fun hmem => hback ?_
    exact Script.mem_of_mem_enteredText hmem (by decide)
  have hreads : reader prompt.input =
      (Script.wantedLines pieces).map fun line => .ok (String.ofList line) := by
    rw [hplain prompt.input hnot, hinput, inputLines_encode (Script.splitsInto_enteredText _),
      Script.wantedLines_splitOn hpieces]
  obtain ⟨hprinted, hstatus⟩ := runWith_script reader hscript rfl hfile
  obtain ⟨hprinted', hstatus', -⟩ := runWith_prompt reader hprompt rfl rfl
  rw [hlines] at hprinted hstatus
  rw [hreads] at hprinted' hstatus'
  obtain ⟨hanswer, hevents⟩ := Script.run_agrees (s := .printing) rfl .empty 1 pieces
  constructor
  · intro stream
    rw [outcomeText_of_nothing hoff, outcomeText_of_nothing hoff', hprinted, hprinted']
    exact congrArg (textOn stream) (printedBy_congr hanswer hevents).symm
  · rw [hstatus, hstatus']
    exact congrArg (fun answer => (ending answer).1) hanswer.symm

/-- A script with a comment, a blank line, blanks around a command and a line that is rejected. -/
theorem script_agrees_with_prompt_commented :
    let text := "# sets\n\n  print_set SETA\t\r\nprint_set SETG\nstop\nprint_set SETA\n"
    let script : Invocation :=
      ⟨["--script", "sets.txt"], [], ⟨[("sets.txt", encode text)]⟩, none, none⟩
    let prompt : Invocation :=
      ⟨["--quiet", "--echo"],
        encode "print_set SETA\nprint_set SETG\nstop\nprint_set SETA\n", ⟨[]⟩, none, none⟩
    (∀ stream, outcomeText script (runWith inputLines script) stream =
      outcomeText prompt (runWith inputLines prompt) stream) ∧
    (runWith inputLines script).status = (runWith inputLines prompt).status ∧
    outcomeText script (runWith inputLines script) .output =
      "> print_set SETA\nThe set is empty.\n> print_set SETG\n> stop\n" ∧
    outcomeText script (runWith inputLines script) .diagnostics = "Error: Invalid set name.\n" := by
  intro text script prompt
  have hparse : CommandLine.parse ["--script", "sets.txt"] =
      .ok ⟨some "sets.txt", false, false, false, none⟩ := by
    apply script_agrees_with_prompt.1 "sets.txt" (by decide)
    intro c cs hdash
    cases (by decide : "sets.txt".toList.head? = some 's').symm.trans (congrArg List.head? hdash)
  obtain ⟨hshown, hstatus⟩ := script_agrees_with_prompt.2.2 inputLines text "sets.txt" script prompt
    plain_inputLines (by decide +kernel) hparse rfl script_agrees_with_prompt.2.1
    (by decide +kernel) rfl rfl
  refine ⟨hshown, hstatus, ?_, ?_⟩
  · decide +kernel
  · decide +kernel

end Program

end SetCalculator
