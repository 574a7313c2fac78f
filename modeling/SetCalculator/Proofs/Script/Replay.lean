import SetCalculator.Proofs.Script.Transcript
import SetCalculator.Proofs.Session.Spacing

/-!
# Replaying a transcript

The echoes among the items of a script are a script themselves, and running it leads to the same
items and the same session (`replay_reproduces`).

Which lines are echoed can be read off the input without running it (`echoedLines`), since only a
line that asks to stop, or bytes that are no text, end a script that is not strict. What is echoed
is the trimmed line: it is passed over exactly if the line is (`skipped_trim_iff`), asks for the
same, and changes a session as the line does (`process_encode_trim`). So the two runs make the same
steps, except that the first one also makes those that do nothing (`runFrom_replays`).
-/

namespace SetCalculator.Script

open Text

/-! ## What is echoed -/

instance (line : String) : Decidable (AsksToStop line) :=
  inferInstanceAs (Decidable (Command.ofLine line.toList = .ok (some .stop)))

/-- The lines that a script echoes, trimmed: those that it does not pass over, up to the first that
asks to stop and not beyond bytes that are no text. -/
def echoedLines : List (List UInt8) → List (List Char)
  | [] => []
  | piece :: pieces =>
    match decode? piece with
    | none => []
    | some line =>
      if Skipped line.toList then echoedLines pieces
      else if AsksToStop line then [trim line.toList]
      else trim line.toList :: echoedLines pieces

/-- The item that is the echo of a trimmed line. -/
def echoOf (line : List Char) : String := "> " ++ String.ofList line

/-- The script that the echoes among the items make up: each without the mark that it begins with,
and with an end of the line. -/
def replayText (items : List String) : List Char :=
  (items.filter fun item => IsEcho item).flatMap fun item => item.toList.drop 2 ++ ['\n']

/-- The replay of items of which these lines are the echoes has these lines. -/
theorem replayText_of_echoes {items : List String} {lines : List (List Char)}
    (h : items.filter (fun item => IsEcho item) = lines.map echoOf) :
    replayText items = lines.flatMap (· ++ ['\n']) := by
  have hdrop : ∀ line, (echoOf line).toList.drop 2 = line := by
    intro line
    simp [echoOf]
  rw [replayText, h, List.flatMap_map]
  simp only [hdrop]

/-- A line that is echoed can be written down as a line again: there is no feed in it, and no return
at its end that would be lost. -/
theorem writable_of_mem_echoedLines {pieces : List (List UInt8)}
    (h : ∀ piece ∈ pieces, lineFeed ∉ piece) :
    ∀ line ∈ echoedLines pieces, '\n' ∉ line ∧ line.getLast? ≠ some '\r' := by
  have htrim : ∀ {piece : List UInt8} {line : String}, decode? piece = some line →
      lineFeed ∉ piece →
      '\n' ∉ trim line.toList ∧ (trim line.toList).getLast? ≠ some '\r' := by
    intro piece line hdecode hno
    refine ⟨fun hmem => notMem_of_decode? hdecode hno (mem_of_mem_trim hmem), fun hlast => ?_⟩
    -- A return is blank, so trimming does not leave it at the end.
    cases not_isBlank_of_getLast?_trim hlast
  fun_induction echoedLines pieces with
  | case1 => exact List.forall_mem_nil _
  | case2 => exact List.forall_mem_nil _
  | case3 piece pieces line hdecode hskip ih =>
    exact ih fun piece hpiece => h piece (List.mem_cons_of_mem _ hpiece)
  | case4 piece pieces line hdecode hskip hstop =>
    exact List.forall_mem_singleton.2 (htrim hdecode (h piece List.mem_cons_self))
  | case5 piece pieces line hdecode hskip hstop ih =>
    refine List.forall_mem_cons.2 ⟨htrim hdecode (h piece List.mem_cons_self), ih ?_⟩
    exact fun piece hpiece => h piece (List.mem_cons_of_mem _ hpiece)

/-! ## A line and its trimmed form -/

/-- A trimmed line is passed over exactly if the line is. -/
theorem skipped_trim_iff {line : List Char} : Skipped (trim line) ↔ Skipped line := by
  rw [← isSkipped_trim_iff, trim_trim, isSkipped_trim_iff]

section

variable {piece : List UInt8} {line : String}

/-- A line that is not passed over is not passed over when it is trimmed, either. -/
theorem not_skipped_ofList_trim (h : ¬ Skipped line.toList) :
    ¬ Skipped (String.ofList (trim line.toList)).toList := by
  rwa [String.toList_ofList, skipped_trim_iff]

/-- A trimmed line asks to stop exactly if the line does. -/
theorem asksToStop_trim : AsksToStop (String.ofList (trim line.toList)) ↔ AsksToStop line := by
  rw [AsksToStop, AsksToStop, Session.ofLine_ofList_trim]

/-- **The trimmed form of a line does to a session what the line does.** -/
theorem process_encode_trim (s : Session) (hdecode : decode? piece = some line)
    (hskip : ¬ Skipped line.toList) :
    process s (encode (String.ofList (trim line.toList))) = process s piece := by
  rw [process_of_not_skipped s (decode?_encode _) (not_skipped_ofList_trim hskip),
    process_of_not_skipped s hdecode hskip, String.toList_ofList, trim_trim]
  exact (Session.feed_trim _ line).state

variable {s : Session} (hs : s.phase = .idle) (number : Nat)

/-- A line that is passed over does not end the script. -/
theorem answer_take_of_skipped (s : Session) (hdecode : decode? piece = some line)
    (hskip : Skipped line.toList) :
    (take false number s (InputLine.ofBytes piece)).answer = none := by
  rw [take_of_text false number s hdecode, runLine_of_skipped false number hskip]

include hs

/-- A line that asks to stop ends the script well. -/
theorem answer_take_of_stop (hdecode : decode? piece = some line) (hskip : ¬ Skipped line.toList)
    (hstop : AsksToStop line) :
    (take false number s (InputLine.ofBytes piece)).answer = some (.ok ()) := by
  rw [take_of_text false number s hdecode, answer_runLine_of_stop false number hs hskip hstop]

/-- A line that does not ask to stop does not end the script. -/
theorem answer_take_of_not_stop (hdecode : decode? piece = some line)
    (hskip : ¬ Skipped line.toList) (hstop : ¬ AsksToStop line) :
    (take false number s (InputLine.ofBytes piece)).answer = none := by
  rw [take_of_text false number s hdecode, answer_runLine_of_not_stop number hs hskip hstop]

end

/-! ## Both runs -/

/-- The run `replay` leads where the run `run` leads, and ends well if it does. -/
structure Replays (run replay : Step Session (Except Failure Unit)) : Prop where
  state : replay.state = run.state
  ok : run.answer = .ok () → replay.answer = .ok ()
  failed : run.answer ≠ .ok () → replay.answer = .error .missingStop

/-- Only the answers and the states of the two runs matter. -/
theorem Replays.congr {a b c d : Step Session (Except Failure Unit)} (h : Replays a b)
    (ha : c.answer = a.answer ∧ c.state = a.state) (hb : d.answer = b.answer ∧ d.state = b.state) :
    Replays c d := by
  refine ⟨hb.2.trans (h.state.trans ha.2.symm), ?_, ?_⟩
  · rw [ha.1, hb.1]
    exact h.ok
  · rw [ha.1, hb.1]
    exact h.failed

/-- The lines that are echoed, as pieces of an input. -/
def echoedPieces (pieces : List (List UInt8)) : List (List UInt8) :=
  (echoedLines pieces).map fun line => encode (String.ofList line)

/-- **The run of an input and the run of the lines that it echoes.** A line that is passed over is a
step of the first run alone, and so are bytes that are no text. -/
theorem runFrom_replays {s : Session} (hs : s.phase = .idle) (number number' : Nat)
    (pieces : List (List UInt8)) :
    Replays (runFrom false number s (pieces.map InputLine.ofBytes))
      (runFrom false number' s ((echoedPieces pieces).map InputLine.ofBytes)) := by
  rw [echoedPieces]
  fun_induction echoedLines pieces generalizing s number number' with
  | case1 => exact ⟨rfl, nofun, fun _ => rfl⟩
  | case2 piece pieces hdecode =>
    have htake := take_of_notText false number s hdecode
    obtain ⟨hanswer, hstate⟩ := runFrom_of_take_some hs (by rw [htake]) pieces
    refine ⟨?_, ?_, fun _ => rfl⟩
    · rw [hstate, process_of_notText s hdecode]
      rfl
    · rw [hanswer]
      nofun
  | case3 piece pieces line hdecode hskip ih =>
    have hrun := runFrom_of_take_none hs (answer_take_of_skipped number s hdecode hskip) pieces
    rw [process_of_skipped s hdecode hskip] at hrun
    exact (ih hs (number + 1) number').congr hrun ⟨rfl, rfl⟩
  | case4 piece pieces line hdecode hskip hstop =>
    obtain ⟨hanswer, hstate⟩ :=
      runFrom_of_take_some hs (answer_take_of_stop hs number hdecode hskip hstop) pieces
    -- The replay ends at the same line, which is its last.
    obtain ⟨hanswer', hstate'⟩ := runFrom_of_take_some hs (answer_take_of_stop hs number'
      (decode?_encode _) (not_skipped_ofList_trim hskip) (asksToStop_trim.2 hstop)) []
    refine ⟨?_, fun _ => hanswer', fun hne => absurd hanswer hne⟩
    rw [hstate, ← process_encode_trim s hdecode hskip]
    exact hstate'
  | case5 piece pieces line hdecode hskip hstop ih =>
    have hanswer := answer_take_of_not_stop hs number hdecode hskip hstop
    have hrun := runFrom_of_take_none hs hanswer pieces
    have hreplay := runFrom_of_take_none hs (answer_take_of_not_stop hs number'
      (decode?_encode _) (not_skipped_ofList_trim hskip) fun h => hstop (asksToStop_trim.1 h))
      ((echoedLines pieces).map fun line => encode (String.ofList line))
    rw [process_encode_trim s hdecode hskip] at hreplay
    exact (ih (phase_process_of_take hs hanswer) (number + 1) (number' + 1)).congr hrun hreplay

/-- **The echoes among the items** are those of the lines that are echoed. -/
theorem filter_isEcho_runFrom {s : Session} (hs : s.phase = .idle) (hcaptures : s.capturing = true)
    (number : Nat) (pieces : List (List UInt8)) :
    (runFrom false number s (pieces.map InputLine.ofBytes)).state.transcript.toList.filter
        (fun item => IsEcho item) =
      s.transcript.toList.filter (fun item => IsEcho item) ++ (echoedLines pieces).map echoOf := by
  fun_induction echoedLines pieces generalizing s number with
  | case1 => exact (List.append_nil _).symm
  | case2 piece pieces hdecode =>
    have htake := take_of_notText false number s hdecode
    obtain ⟨-, hstate⟩ := runFrom_of_take_some hs (by rw [htake]) pieces
    rw [hstate, process_of_notText s hdecode, List.map_nil, List.append_nil]
  | case3 piece pieces line hdecode hskip ih =>
    obtain ⟨-, hstate⟩ :=
      runFrom_of_take_none hs (answer_take_of_skipped number s hdecode hskip) pieces
    rw [hstate, process_of_skipped s hdecode hskip]
    exact ih hs hcaptures (number + 1)
  | case4 piece pieces line hdecode hskip hstop =>
    obtain ⟨-, hstate⟩ :=
      runFrom_of_take_some hs (answer_take_of_stop hs number hdecode hskip hstop) pieces
    rw [hstate, transcript_process hs hcaptures, List.filter_append,
      filter_isEcho_shownFor s hdecode hskip]
    rfl
  | case5 piece pieces line hdecode hskip hstop ih =>
    have hanswer := answer_take_of_not_stop hs number hdecode hskip hstop
    obtain ⟨-, hstate⟩ := runFrom_of_take_none hs hanswer pieces
    rw [hstate, ih (phase_process_of_take hs hanswer)
      ((capturing_process s piece).trans hcaptures) (number + 1),
      transcript_process hs hcaptures, List.filter_append, filter_isEcho_shownFor s hdecode hskip,
      List.append_assoc]
    rfl

/-- The replay of a run is read as the lines that the run echoed. -/
theorem inputLines_replayText {pieces : List (List UInt8)} {items : List String}
    (hpieces : ∀ piece ∈ pieces, lineFeed ∉ piece)
    (hitems : items.filter (fun item => IsEcho item) = (echoedLines pieces).map echoOf) :
    inputLines (encode (String.ofList (replayText items))) =
      (echoedPieces pieces).map InputLine.ofBytes := by
  have hsplits : SplitsInto '\n' '\r' (replayText items) (echoedLines pieces) := by
    rw [replayText_of_echoes hitems]
    exact splitsInto_flatMap (writable_of_mem_echoedLines hpieces)
  rw [inputLines, ← hsplits.encode.eq_physicalLines, echoedPieces]

/-- **Replaying a transcript reproduces it.** Run any bytes as a script that is not strict, in a
fresh session that captures. Among its items, those that begin like an echo are the echoes of the
lines that `echoedLines` names, and neither a set nor a report begins so. If these items, without
the mark of an echo, are run as the lines of a script, then the items, the registers and the phase
are the same again. The replay ends well exactly if the run did, and else without a stop. In any
session, to execute a line is to execute it trimmed, as it is echoed. -/
theorem replay_reproduces (bytes : List UInt8) :
    let done : Step Session (Except Failure Unit) := runLines false .captured (inputLines bytes)
    let items := done.state.transcript.toList
    let replay := runLines false .captured (inputLines (encode (String.ofList (replayText items))))
    (∃ pieces, SplitsInto lineFeed carriageReturn bytes pieces ∧
      items.filter (fun item => IsEcho item) = (echoedLines pieces).map echoOf) ∧
    (∀ contents : MemberSet, ¬ IsEcho contents.render) ∧
    (∀ refusal : Refusal, ¬ IsEcho ("Error: " ++ refusal.message)) ∧
    replay.state = done.state ∧
    (replay.answer = .ok () ↔ done.answer = .ok ()) ∧
    (done.answer ≠ .ok () → messages? replay.answer = some ["Missing stop command"]) ∧
    ∀ (s : Session) (line : String),
      (s.executeLine (String.ofList (trim line.toList))).Alike (s.executeLine line) := by
  intro done items replay
  have hpieces := splitsInto_physicalLines bytes
  have hitems : items.filter (fun item => IsEcho item) =
      (echoedLines (physicalLines bytes)).map echoOf :=
    filter_isEcho_runFrom (s := .captured) rfl rfl 1 (physicalLines bytes)
  have hreplays : Replays done replay := by
    have hlines := inputLines_replayText hpieces.notMem hitems
    rw [show replay = _ from congrArg (runLines false .captured) hlines]
    exact runFrom_replays rfl 1 1 (physicalLines bytes)
  refine ⟨⟨_, hpieces, hitems⟩, not_isEcho_render, fun refusal => not_isEcho_report _,
    hreplays.state, ⟨?_, hreplays.ok⟩, ?_, Session.executeLine_trim⟩
  · intro hok
    by_contra hne
    cases hok.symm.trans (hreplays.failed hne)
  · intro hne
    rw [hreplays.failed hne]
    rfl

/-- A run with a comment, blanks around a line, a return within a line and one before its end, that
ends at bytes that are no text. -/
theorem replay_reproduces_unreadable :
    let bytes :=
      encode "# sets\n read_set SETA, 7, -1\t\r\nprint_set\rSETA\nprint_set SETG\r\r\n" ++
        [0xFF, 0x0A] ++ encode "stop\n"
    let done := runLines false .captured (inputLines bytes)
    let items := done.state.transcript.toList
    let replay := runLines false .captured (inputLines (encode (String.ofList (replayText items))))
    done.answer = .error (.unreadableLine 5 .notText) ∧
    replayText items = "read_set SETA, 7, -1\nprint_set\rSETA\nprint_set SETG\n".toList ∧
    replay.state = done.state ∧
    messages? replay.answer = some ["Missing stop command"] := by
  intro bytes done items replay
  have hdone : done.answer = .error (.unreadableLine 5 .notText) := by decide +kernel
  have hne : done.answer ≠ .ok () := by
    rw [hdone]
    nofun
  obtain ⟨-, -, -, hstate, -, hfailed, -⟩ := replay_reproduces bytes
  exact ⟨hdone, by decide +kernel, hstate, hfailed hne⟩

end SetCalculator.Script
