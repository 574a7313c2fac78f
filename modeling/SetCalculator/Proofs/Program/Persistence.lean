import SetCalculator.Proofs.Program.Arguments
import SetCalculator.Proofs.Directory.Writing
import SetCalculator.Proofs.Prompt.History

/-!
# The history from run to run

A run at the prompt with a history file starts from the entries that the runs before it left, and
leaves them with the lines that were added (`history_is_kept`). All ways in which a prompt can end
come to the same end of the run, where the history is saved; it is written only if a line was added.

The statement speaks of two runs, so it needs to know what the earlier one left. `LeftByRuns` says
that a file is missing or was left by a run under the same conditions, and by induction over these
runs such a file holds sound entries (`LeftByRuns.holds`): the conditions on the input are what
keeps an entry from being changed on its way through the file.
-/

namespace SetCalculator

open Text Log

/-- A script and a history rule each other out. -/
theorem CommandLine.script_eq_none_of_history {words : List String} {options : Options}
    {path : String} (h : parse words = .ok options) (hhistory : options.history = some path) :
    options.script = none := by
  have hjudged := conclude_of_parse h
  rw [conclude] at hjudged
  split at hjudged
  · cases hjudged
  · next hconflict => simpa [hhistory] using hconflict

/-- `Holds contents entries`: there is no history file and there are no entries, or the file was
written for these entries and reads back as them. -/
inductive History.Holds : Option (List UInt8) → List String → Prop
  | absent : Holds none []
  | file {entries : List String} : Sound entries → entries.length ≤ limit →
    Holds (some (encode (fileText ⟨entries, true⟩))) entries

/-- The entries are loaded from where they are held. -/
theorem History.Holds.load_read {d : Directory} {path : String} {entries : List String}
    (hholds : Holds (d.fileAt? path) entries) (hwritable : d.Writable path) :
    (load (d.read path)).history = ⟨entries, false⟩ := by
  rw [hwritable.read_eq]
  generalize d.fileAt? path = contents at hholds
  cases hholds with
  | absent => rfl
  | file hsound hfew => exact congrArg Loaded.history (load_fileText hsound hfew)

/-- The entries that a file holds are few, and none of them would be left out. -/
theorem History.Holds.sound {contents : Option (List UInt8)} {entries : List String}
    (h : Holds contents entries) : Sound entries ∧ entries.length ≤ limit := by
  cases h with
  | absent => exact ⟨.nil, Nat.zero_le _⟩
  | file hsound hfew => exact ⟨hsound, hfew⟩

namespace Program

/-! ## Saving -/

/-- A history to which nothing was added is not written. -/
theorem saveHistory_of_saved (entries : List String) (path : String) (d : Directory) :
    (saveHistory ⟨entries, false⟩ (some path) d).2 = d := rfl

/-- Any other history is in its file afterwards. -/
theorem saveHistory_of_unsaved {d : Directory} {path : String} (h : d.Writable path)
    {entries : List String} (hne : entries ≠ []) :
    (saveHistory ⟨entries, true⟩ (some path) d).2.fileAt? path =
      some (encode (History.fileText ⟨entries, true⟩)) := by
  obtain ⟨d', hwrite, hread⟩ := h.exists_write (encode (History.fileText ⟨entries, true⟩))
  have hneeds : History.needsSaving ⟨entries, true⟩ = true := by
    simpa [History.needsSaving] using hne
  simp only [saveHistory, hneeds, if_true, hwrite]
  exact hread

/-- **Lines are remembered and the history is saved.** From entries that are held the file comes to
hold those with the added lines, and without such a line nothing is written. -/
theorem saveHistory_keeps {d : Directory} {path : String} {entries lines : List String}
    (hwritable : d.Writable path) (hholds : History.Holds (d.fileAt? path) entries)
    (hlines : ∀ line ∈ lines, '\r' ∉ line.toList) :
    let saved := (saveHistory (lines.foldl Prompt.remember ⟨entries, false⟩) (some path) d).2
    let added := History.added entries.getLast? lines
    let after := (entries ++ added).rtake History.limit
    History.Holds (saved.fileAt? path) after ∧
    (added ≠ [] → saved.fileAt? path = some (encode (History.fileText ⟨after, true⟩))) ∧
    (added = [] → saved = d) := by
  intro saved added after
  obtain ⟨hsound, hfew⟩ := hholds.sound
  have hsaved : saved = (saveHistory ⟨after, !added.isEmpty⟩ (some path) d).2 := by
    simp only [saved, after, added]
    rw [History.foldl_remember (h := ⟨entries, false⟩) hfew, Bool.false_or]
  by_cases hnone : added = []
  · have hsame : saved = d := by
      rw [hsaved, hnone]
      exact saveHistory_of_saved _ _ _
    -- The entries were few enough before, so nothing is cut off.
    have hentries : after = entries := by
      simp [after, hnone, List.rtake, Nat.sub_eq_zero_of_le hfew]
    refine ⟨?_, fun hadds => absurd hnone hadds, fun _ => hsame⟩
    rw [hsame, hentries]
    exact hholds
  · have hunsaved : (!added.isEmpty) = true := by simpa using hnone
    have hlength : after.length = min History.limit (entries ++ added).length := by
      simp only [after, List.rtake, List.length_drop]
      omega
    -- An empty history would not be saved.
    have hne : after ≠ [] := by
      have hpos : 0 < added.length := List.length_pos_iff.2 hnone
      rw [← List.length_pos_iff, hlength, List.length_append, History.limit]
      omega
    have hfile : saved.fileAt? path = some (encode (History.fileText ⟨after, true⟩)) := by
      rw [hsaved, hunsaved]
      exact saveHistory_of_unsaved hwritable hne
    refine ⟨?_, fun _ => hfile, fun hnone' => absurd hnone' hnone⟩
    rw [hfile]
    exact .file ((hsound.added hlines).suffix (List.drop_suffix _ _))
      (hlength.trans_le (Nat.min_le_left _ _))

/-! ## Runs -/

/-- A run at the prompt that keeps its history in the file at the path. The lines of its input hold
no carriage return besides those that end them, and nothing that edits them. -/
structure KeepsHistory (given : Invocation) (path : String) : Prop where
  asked : ∃ options, CommandLine.parse given.arguments = .ok options ∧ options.history = some path
  writable : given.directory.Writable path
  plain : ∀ pieces, SplitsInto lineFeed carriageReturn given.input pieces →
    ∀ piece ∈ pieces, carriageReturn ∉ piece ∧ backspace ∉ piece

/-- What is at the path of a history file: nothing, or what a run left there that found it in this
state before. -/
inductive LeftByRuns (reader : LineReader) : Option (List UInt8) → Prop
  | absent : LeftByRuns reader none
  | run {given : Invocation} {path : String} : KeepsHistory given path →
    LeftByRuns reader (given.directory.fileAt? path) →
    LeftByRuns reader ((runWith reader given).directory.fileAt? path)

section

variable {reader : LineReader} {given : Invocation} {path : String}

variable (reader) in
/-- The run of the prompt, and the saving of its history. -/
theorem runWith_history {options : Options}
    (hparse : CommandLine.parse given.arguments = .ok options)
    (hhistory : options.history = some path) :
    let loaded := History.load (given.directory.read path)
    let done := Prompt.run options.echo ⟨.printing, loaded.history⟩ (reader given.input)
    (runWith reader given).status = (ending done.answer).1 ∧
    (runWith reader given).directory =
      (saveHistory done.state.history (some path) given.directory).2 := by
  intro loaded done
  have hscript := CommandLine.script_eq_none_of_history hparse hhistory
  simp only [runWith, hparse, runOptions, hscript, runPrompt, hhistory]
  exact ⟨rfl, rfl⟩

/-- An input whose lines are not edited reaches the prompt line by line. -/
theorem KeepsHistory.reads (h : KeepsHistory given path) (hplain : reader.Plain) :
    reader given.input = (physicalLines given.input).map InputLine.ofBytes := by
  refine hplain given.input fun hback => ?_
  have hpieces := splitsInto_physicalLines given.input
  rcases hpieces.mem_cases hback with hfeed | hreturn | ⟨piece, hpiece, hmem⟩
  · exact absurd hfeed (by decide)
  · exact absurd hreturn (by decide)
  · exact (h.plain _ hpieces piece hpiece).2 hmem

/-- **One run**, from entries that are held to entries that are held. -/
theorem KeepsHistory.run_keeps (h : KeepsHistory given path) (hplain : reader.Plain)
    {entries : List String} (hholds : History.Holds (given.directory.fileAt? path) entries) :
    ∃ pieces lines status fatal,
      SplitsInto lineFeed carriageReturn given.input pieces ∧
      Conversation pieces lines status fatal ∧ (runWith reader given).status = status ∧
      let added := History.added entries.getLast? lines
      let after := (entries ++ added).rtake History.limit
      History.Holds ((runWith reader given).directory.fileAt? path) after ∧
      (added ≠ [] → (runWith reader given).directory.fileAt? path =
        some (encode (History.fileText ⟨after, true⟩))) ∧
      (added = [] → (runWith reader given).directory = given.directory) := by
  obtain ⟨options, hparse, hhistory⟩ := h.asked
  obtain ⟨hstatus, hdirectory⟩ := runWith_history reader hparse hhistory
  rw [hholds.load_read h.writable, h.reads hplain] at hstatus hdirectory
  have hpieces := splitsInto_physicalLines given.input
  obtain ⟨lines, status, fatal, hread, hremembered, hend⟩ :=
    Prompt.run_remembers (s := .printing) rfl ⟨entries, false⟩ options.echo
      (physicalLines given.input)
  rw [hremembered] at hdirectory
  refine ⟨physicalLines given.input, lines, status, fatal, hpieces, hread, hstatus.trans hend, ?_⟩
  rw [hdirectory]
  -- A line of the conversation is decoded from a piece, and no piece holds a return.
  refine saveHistory_keeps h.writable hholds ?_
  intro line hline
  obtain ⟨piece, hpiece, hdecode⟩ := hread.exists_piece line hline
  exact char_notMem_of_decode? (by decide) hdecode (h.plain _ hpieces piece hpiece).1

/-- **What runs leave holds entries.** -/
theorem LeftByRuns.holds (hplain : reader.Plain) {contents : Option (List UInt8)}
    (h : LeftByRuns reader contents) : ∃ entries, History.Holds contents entries := by
  induction h with
  | absent => exact ⟨[], .absent⟩
  | run hkeeps _ ih =>
    obtain ⟨entries, hholds⟩ := ih
    obtain ⟨-, lines, -, -, -, -, -, hafter, -⟩ := hkeeps.run_keeps hplain hholds
    exact ⟨_, hafter⟩

end

/-- **The history is kept from run to run**, whichever way the prompt ends. A run starts from the
entries that are in its history file, which is missing or was left by a run before it. If none of
the lines that are read is added, the run leaves the directory as it is. Otherwise the file then
holds the entries with the lines that were added, cut to the last hundred, and the next run starts
from just these. -/
theorem history_is_kept {reader : LineReader} (hplain : reader.Plain) {given : Invocation}
    {path : String} (hkeeps : KeepsHistory given path)
    (hleft : LeftByRuns reader (given.directory.fileAt? path)) :
    let outcome := runWith reader given
    let before := (History.load (given.directory.read path)).history.entries
    (given.directory.fileAt? path = none → before = []) ∧
    ∃ pieces lines status fatal,
      SplitsInto lineFeed carriageReturn given.input pieces ∧
      Conversation pieces lines status fatal ∧ outcome.status = status ∧
      let added := History.added before.getLast? lines
      let after := (before ++ added).rtake History.limit
      (added ≠ [] →
        outcome.directory.read path = .ok (.file (encode (History.fileText ⟨after, true⟩))) ∧
        History.load (outcome.directory.read path) = ⟨⟨after, false⟩, true, []⟩) ∧
      (added = [] → outcome.directory = given.directory) := by
  intro outcome before
  obtain ⟨entries, hholds⟩ := hleft.holds hplain
  have hbefore : before = entries := congrArg History.entries (hholds.load_read hkeeps.writable)
  obtain ⟨pieces, lines, status, fatal, hpieces, hread, hstatus, hafter, hfile, hsame⟩ :=
    hkeeps.run_keeps hplain hholds
  rw [hbefore]
  refine ⟨?_, pieces, lines, status, fatal, hpieces, hread, hstatus, ?_, hsame⟩
  · intro habsent
    rw [habsent] at hholds
    cases hholds
    rfl
  · intro hadds
    obtain ⟨hsound, hfew⟩ := hafter.sound
    rw [Directory.read_of_fileAt? (hfile hadds)]
    exact ⟨rfl, History.load_fileText hsound hfew⟩

/-- Two runs. The first one fails at the end of its input; a backslash is the last entry that it
adds. The second one starts with the same line, which is not added again, and is stopped. -/
theorem history_is_kept_second_run :
    let first : Invocation :=
      ⟨["--history", "kept"], encode "print_set SETA\r\n\r\n stop now\nSETA\n\\\n\\", ⟨[]⟩,
        none, none⟩
    let left := (runWith inputLines first).directory
    let second : Invocation :=
      ⟨["-q", "--history=kept"], encode "\\\nstop\nSETB\n", left, none, none⟩
    let outcome := runWith inputLines second
    (runWith inputLines first).status = 1 ∧ outcome.status = 0 ∧
    LeftByRuns inputLines (left.fileAt? "kept") ∧
    (History.load (left.read "kept")).history.entries = ["print_set SETA", "SETA", "\\"] ∧
    History.load (outcome.directory.read "kept") =
      ⟨⟨["print_set SETA", "SETA", "\\", "stop"], false⟩, true, []⟩ := by
  intro first left second outcome
  have hplain : ∀ {bytes : List UInt8},
      (∀ piece ∈ physicalLines bytes, carriageReturn ∉ piece ∧ backspace ∉ piece) →
      ∀ pieces, SplitsInto lineFeed carriageReturn bytes pieces →
        ∀ piece ∈ pieces, carriageReturn ∉ piece ∧ backspace ∉ piece := by
    intro bytes h pieces hpieces
    rwa [hpieces.eq_physicalLines]
  have hfirst : KeepsHistory first "kept" :=
    ⟨⟨⟨none, false, false, false, some "kept"⟩, by decide +kernel, rfl⟩,
      ⟨"kept", .inr (by decide +kernel)⟩, hplain (by decide +kernel)⟩
  have hsecond : KeepsHistory second "kept" :=
    ⟨⟨⟨none, false, true, false, some "kept"⟩, by decide +kernel, rfl⟩,
      ⟨"kept", .inl (by decide +kernel)⟩, hplain (by decide +kernel)⟩
  have hleft : LeftByRuns inputLines (left.fileAt? "kept") := .run hfirst .absent
  have hbefore : (History.load (left.read "kept")).history.entries =
      ["print_set SETA", "SETA", "\\"] := by
    decide +kernel
  obtain ⟨-, pieces, lines, status, fatal, hpieces, hread, hstatus, hkept, -⟩ :=
    history_is_kept plain_inputLines hsecond hleft
  have hreads : Conversation (physicalLines second.input) ["\\", "stop"] 0 "" :=
    .next (by decide +kernel) (by unfold AsksToStop; decide +kernel)
      (.stop (by decide +kernel) (by unfold AsksToStop; decide +kernel))
  rw [hpieces.eq_physicalLines] at hread
  obtain ⟨rfl, rfl, -⟩ := hread.unique hreads
  rw [hbefore] at hkept
  refine ⟨by decide +kernel, hstatus, hleft, hbefore, ?_⟩
  exact (hkept (by decide +kernel)).2

end Program

end SetCalculator
