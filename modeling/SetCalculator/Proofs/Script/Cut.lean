import Mathlib.Data.List.Basic
import SetCalculator.Proofs.Session.Feed
import SetCalculator.Proofs.Text.PhysicalLine
import SetCalculator.Script

/-!
# Where a script ends

A script goes through the lines of its input in order. A blank line or a comment is passed over, and
every other line is echoed in its trimmed form and fed as it is: `process` says so of one line,
without a word on when the script ends. `Ends` says which line ends a script, with which messages,
by the line and its number alone. `runLines_cuts_at_first_end` puts the two together: a script ends
at the first line that ends it, or else at the end of the input, and the session is what `process`
makes of the lines up to there. What follows that line is of no effect.

`take_cases` is the step: it needs the session to be idle, and hands it on idle unless the script
ends (`phase_process`).
-/

namespace SetCalculator.Script

open Text

/-! ## What one line does -/

/-- A line that a script passes over: it is blank, or begins with a number sign after its blanks. -/
def Skipped (line : List Char) : Prop :=
  (∀ c ∈ line, isBlank c = true) ∨ ∃ rest, trim line = '#' :: rest

/-- A script passes over a line if it is blank or a comment, whatever blanks stand around it. -/
theorem isSkipped_trim_iff {line : List Char} : isSkipped (trim line) = true ↔ Skipped line := by
  have hblank : trim line = [] ↔ ∀ c ∈ line, isBlank c = true :=
    trim_eq_nil_iff.trans List.all_eq_true
  rw [Skipped, ← hblank, isSkipped]
  cases trim line with
  | nil => simp
  | cons c cs => simp

/-- A line that is neither blank nor a comment is not passed over. -/
theorem isSkipped_trim_eq_false {line : List Char} (h : ¬ Skipped line) :
    isSkipped (trim line) = false := by
  rw [Bool.eq_false_iff]
  intro hskip
  exact h (isSkipped_trim_iff.1 hskip)

instance (line : List Char) : Decidable (Skipped line) := decidable_of_iff _ isSkipped_trim_iff

/-- The session after one piece of the input. Bytes that are no text do nothing. -/
def process (s : Session) (piece : List UInt8) : Session :=
  match decode? piece with
  | none => s
  | some line =>
    if Skipped line.toList then s
    else ((s.echo (String.ofList (trim line.toList))).state.feed line).state

/-- The messages with which a script ends, outermost first; a script that ends well has none. -/
def messages? : Except Failure Unit → Option (List String)
  | .ok () => none
  | .error failure => some (failure.chain.1 :: failure.chain.2)

/-- The piece with this number ends a script, and with these messages. -/
inductive Ends (strict : Bool) (number : Nat) : List UInt8 → Option (List String) → Prop
  /-- A line that asks to stop ends the script well. -/
  | stop {piece : List UInt8} {line : String} : decode? piece = some line →
    ¬ Skipped line.toList → AsksToStop line → Ends strict number piece none
  /-- Bytes that are no text end it. -/
  | notText {piece : List UInt8} : decode? piece = none →
    Ends strict number piece
      (some ["Error reading line " ++ toString number, "stream did not contain valid UTF-8"])
  /-- A rejected line ends a strict script. -/
  | rejected {piece : List UInt8} {line : String} {rejection : Rejection} : strict = true →
    decode? piece = some line → ¬ Skipped line.toList →
    Command.ofLine line.toList = .error rejection →
    Ends strict number piece
      (some ["Line " ++ toString number ++ ": aborted on rejected command"])

/-! ## Running a line is echoing and feeding it -/

section

variable {s : Session} {line : String} (strict : Bool) (number : Nat)

/-- A line that is passed over does nothing, not even an echo. -/
theorem runLine_of_skipped (h : Skipped line.toList) :
    runLine strict number s line = ⟨none, s, []⟩ := by
  rw [runLine]
  simp only [isSkipped_trim_iff.2 h, if_true]

/-- A line that is not passed over is echoed and fed. -/
theorem runLine_of_not_skipped (h : ¬ Skipped line.toList) :
    let echoed := s.echo (String.ofList (trim line.toList))
    (runLine strict number s line).state = (echoed.state.feed line).state ∧
    printed (runLine strict number s line).events =
      printed echoed.events ++ printed (echoed.state.feed line).events := by
  intro echoed
  have hskip := isSkipped_trim_eq_false h
  cases hdone : (echoed.state.executeLine line).answer with
  | ok flow =>
    rw [Session.feed_of_ok hdone]
    cases flow
    · simp only [runLine, hskip, Bool.false_eq_true, if_false, echoed, hdone, printed_append]
      exact ⟨trivial, trivial⟩
    · simp only [runLine, hskip, Bool.false_eq_true, if_false, echoed, hdone, printed_append]
      exact ⟨trivial, trivial⟩
  | error refusal =>
    rw [Session.feed_of_error hdone]
    simp only [runLine, hskip, Bool.false_eq_true, if_false, echoed, hdone, printed_append,
      printed_logged_cons, List.append_assoc]
    exact ⟨trivial, trivial⟩

/-- The answer to a line that is not passed over, by the answer of executing it. -/
theorem answer_runLine_of_not_skipped (h : ¬ Skipped line.toList) :
    (runLine strict number s line).answer =
      match ((s.echo (String.ofList (trim line.toList))).state.executeLine line).answer with
      | .ok .stop => some (.ok ())
      | .ok .continue => none
      | .error _ => if strict then some (.error (.abortedLine number)) else none := by
  have hskip := isSkipped_trim_eq_false h
  simp only [runLine, hskip, Bool.false_eq_true, if_false]
  cases ((s.echo (String.ofList (trim line.toList))).state.executeLine line).answer with
  | ok flow =>
    cases flow with
    | stop => rfl
    | «continue» => rfl
  | error refusal => rfl

/-- What a line that is not passed over means for a script in an idle session. -/
theorem answer_runLine (hs : s.phase = .idle) (h : ¬ Skipped line.toList) :
    (runLine strict number s line).answer =
      match Command.ofLine line.toList with
      | .error _ => if strict then some (.error (.abortedLine number)) else none
      | .ok (some .stop) => some (.ok ())
      | .ok _ => none := by
  have hidle : (s.echo (String.ofList (trim line.toList))).state.phase = .idle :=
    (Session.phase_emit s _ _).trans hs
  rw [answer_runLine_of_not_skipped strict number h]
  cases hline : Command.ofLine line.toList with
  | error rejection => rw [Session.executeLine_of_rejected hline]
  | ok asked =>
    cases asked with
    | none => rw [Session.executeLine_of_blank hline]
    | some command =>
      rw [Session.executeLine_of_idle hidle hline]
      cases command with
      | read target members => rfl
      | print register => rfl
      | combine op lhs rhs dest => rfl
      | stop => rfl

/-- A line that asks to stop ends a script. -/
theorem answer_runLine_of_stop (hs : s.phase = .idle) (hskip : ¬ Skipped line.toList)
    (h : AsksToStop line) : (runLine strict number s line).answer = some (.ok ()) := by
  rw [answer_runLine strict number hs hskip, h]

/-- A line that does not ask to stop does not end a script that is not strict. -/
theorem answer_runLine_of_not_stop (hs : s.phase = .idle) (hskip : ¬ Skipped line.toList)
    (h : ¬ AsksToStop line) : (runLine false number s line).answer = none := by
  rw [answer_runLine false number hs hskip]
  cases hline : Command.ofLine line.toList with
  | error rejection => rfl
  | ok asked =>
    cases asked with
    | none => rfl
    | some command =>
      cases command with
      | read target members => rfl
      | print register => rfl
      | combine op lhs rhs dest => rfl
      | stop => exact absurd hline h

end

/-! ## One piece of the input -/

section

variable {piece : List UInt8} {line : String}

/-- Bytes that are no text do nothing to the session. -/
theorem process_of_notText (s : Session) (h : decode? piece = none) : process s piece = s := by
  simp only [process, h]

/-- A line that is passed over does nothing to the session. -/
theorem process_of_skipped (s : Session) (h : decode? piece = some line)
    (hskip : Skipped line.toList) : process s piece = s := by
  simp only [process, h, if_pos hskip]

/-- A line that is not passed over is echoed and fed. -/
theorem process_of_not_skipped (s : Session) (h : decode? piece = some line)
    (hskip : ¬ Skipped line.toList) :
    process s piece = ((s.echo (String.ofList (trim line.toList))).state.feed line).state := by
  simp only [process, h, if_neg hskip]

/-- Bytes that are no text end a script. -/
theorem take_of_notText (strict : Bool) (number : Nat) (s : Session) (h : decode? piece = none) :
    take strict number s (InputLine.ofBytes piece) =
      ⟨some (.error (.unreadableLine number .notText)), s, []⟩ := by
  simp only [InputLine.ofBytes, h, take]

/-- A piece that is text is run as a line. -/
theorem take_of_text (strict : Bool) (number : Nat) (s : Session) (h : decode? piece = some line) :
    take strict number s (InputLine.ofBytes piece) = runLine strict number s line := by
  simp only [InputLine.ofBytes, h, take]

end

/-- A session stays idle over every piece that does not end a script. -/
theorem phase_process {s : Session} (hs : s.phase = .idle) {strict : Bool} {number : Nat}
    {piece : List UInt8} (h : ∀ result, ¬ Ends strict number piece result) :
    (process s piece).phase = .idle := by
  cases hdecode : decode? piece with
  | none =>
    rw [process_of_notText s hdecode]
    exact hs
  | some line =>
    by_cases hskip : Skipped line.toList
    · rw [process_of_skipped s hdecode hskip]
      exact hs
    · rw [process_of_not_skipped s hdecode hskip]
      have hstop : ¬ AsksToStop line := fun hstop => h none (.stop hdecode hskip hstop)
      exact Session.phase_feed ((Session.phase_emit s _ _).trans hs) hstop

/-- A piece that is a line ends the script in one of the ways in which a line does. -/
theorem Ends.of_text {strict : Bool} {number : Nat} {piece : List UInt8} {line : String}
    {result : Option (List String)} (h : Ends strict number piece result)
    (hdecode : decode? piece = some line) :
    ¬ Skipped line.toList ∧ (AsksToStop line ∨
      strict = true ∧ ∃ rejection, Command.ofLine line.toList = .error rejection) := by
  cases h with
  | stop hd hskip hstop =>
    obtain rfl := Option.some_inj.1 (hdecode.symm.trans hd)
    exact ⟨hskip, .inl hstop⟩
  | notText hd => cases hdecode.symm.trans hd
  | rejected hstrict hd hskip hline =>
    obtain rfl := Option.some_inj.1 (hdecode.symm.trans hd)
    exact ⟨hskip, .inr ⟨hstrict, _, hline⟩⟩

/-- **One piece of the input.** It ends the script, with the messages that `Ends` names, or it does
not; either way the session is what `process` makes of it. -/
theorem take_cases {s : Session} (hs : s.phase = .idle) (strict : Bool) (number : Nat)
    (piece : List UInt8) :
    (take strict number s (InputLine.ofBytes piece)).state = process s piece ∧
    ((∃ result, (take strict number s (InputLine.ofBytes piece)).answer = some result ∧
        Ends strict number piece (messages? result)) ∨
      (take strict number s (InputLine.ofBytes piece)).answer = none ∧
        ∀ result, ¬ Ends strict number piece result) := by
  cases hdecode : decode? piece with
  | none =>
    rw [take_of_notText strict number s hdecode, process_of_notText s hdecode]
    exact ⟨rfl, .inl ⟨_, rfl, .notText hdecode⟩⟩
  | some line =>
    rw [take_of_text strict number s hdecode]
    by_cases hskip : Skipped line.toList
    · rw [runLine_of_skipped strict number hskip, process_of_skipped s hdecode hskip]
      exact ⟨rfl, .inr ⟨rfl, fun result h => (h.of_text hdecode).1 hskip⟩⟩
    · refine ⟨?_, ?_⟩
      · rw [(runLine_of_not_skipped strict number hskip).1,
          process_of_not_skipped s hdecode hskip]
      -- The line is judged in the same way by what it is read as and by `Ends`.
      · rw [answer_runLine strict number hs hskip]
        cases hline : Command.ofLine line.toList with
        | error rejection =>
          cases strict with
          | true => exact .inl ⟨_, rfl, .rejected rfl hdecode hskip hline⟩
          | false =>
            refine .inr ⟨rfl, ?_⟩
            intro result h
            rcases (h.of_text hdecode).2 with hstop | ⟨hstrict, -⟩
            · cases hline.symm.trans hstop
            · cases hstrict
        | ok asked =>
          have hnot : asked ≠ some .stop → ∀ result, ¬ Ends strict number piece result := by
            intro hne result h
            rcases (h.of_text hdecode).2 with hstop | ⟨-, rejection, herror⟩
            · exact hne (Except.ok.inj (hline.symm.trans hstop))
            · cases hline.symm.trans herror
          cases asked with
          | none => exact .inr ⟨rfl, hnot nofun⟩
          | some command =>
            cases command with
            | read target members => exact .inr ⟨rfl, hnot nofun⟩
            | print register => exact .inr ⟨rfl, hnot nofun⟩
            | combine op lhs rhs dest => exact .inr ⟨rfl, hnot nofun⟩
            | stop => exact .inl ⟨_, rfl, .stop hdecode hskip hline⟩

/-! ## All pieces -/

section

variable {s : Session} (hs : s.phase = .idle) {strict : Bool} {number : Nat} {piece : List UInt8}
include hs

/-- What a piece does to the session depends neither on its number nor on whether the script is
strict. -/
theorem state_take (strict : Bool) (number : Nat) (piece : List UInt8) :
    (take strict number s (InputLine.ofBytes piece)).state = process s piece :=
  (take_cases hs strict number piece).1

/-- A piece that does not end a script leaves the session idle. -/
theorem phase_process_of_take
    (h : (take strict number s (InputLine.ofBytes piece)).answer = none) :
    (process s piece).phase = .idle := by
  rcases (take_cases hs strict number piece).2 with ⟨result, hanswer, -⟩ | ⟨-, hnot⟩
  · cases hanswer.symm.trans h
  · exact phase_process hs hnot

/-- A piece that ends the script is the last. -/
theorem runFrom_of_take_some {result : Except Failure Unit}
    (h : (take strict number s (InputLine.ofBytes piece)).answer = some result)
    (pieces : List (List UInt8)) :
    let done := runFrom strict number s ((piece :: pieces).map InputLine.ofBytes)
    done.answer = result ∧ done.state = process s piece := by
  simp only [List.map_cons, runFrom, h]
  exact ⟨trivial, state_take hs strict number piece⟩

/-- After any other piece the script goes on with the next number. -/
theorem runFrom_of_take_none
    (h : (take strict number s (InputLine.ofBytes piece)).answer = none)
    (pieces : List (List UInt8)) :
    let done := runFrom strict number s ((piece :: pieces).map InputLine.ofBytes)
    let rest := runFrom strict (number + 1) (process s piece) (pieces.map InputLine.ofBytes)
    done.answer = rest.answer ∧ done.state = rest.state := by
  simp only [List.map_cons, runFrom, h, state_take hs strict number piece]
  exact ⟨rfl, rfl⟩

end

/-- **The pieces one after the other.** The number `n` counts the pieces before the one that ends
the script. -/
theorem runFrom_cut {s : Session} (hs : s.phase = .idle) (strict : Bool) (number : Nat)
    (pieces : List (List UInt8)) :
    ∃ n ≤ pieces.length,
      let done := runFrom strict number s (pieces.map InputLine.ofBytes)
      (∀ i < n, ∀ piece ∈ pieces[i]?, ∀ result, ¬ Ends strict (number + i) piece result) ∧
      done.state = (pieces.take (n + 1)).foldl process s ∧
      match pieces[n]? with
      | some piece => Ends strict (number + n) piece (messages? done.answer)
      | none => messages? done.answer = some ["Missing stop command"] := by
  induction pieces generalizing s number with
  | nil => exact ⟨0, Nat.le_refl _, fun i hi => absurd hi (Nat.not_lt_zero i), rfl, rfl⟩
  | cons piece pieces ih =>
    rcases (take_cases hs strict number piece).2 with
      ⟨result, hanswer, hends⟩ | ⟨hanswer, hnot⟩
    · obtain ⟨hdone, hend⟩ := runFrom_of_take_some hs hanswer pieces
      refine ⟨0, Nat.zero_le _, fun i hi => absurd hi (Nat.not_lt_zero i), hend, ?_⟩
      rw [hdone]
      exact hends
    · obtain ⟨hdone, hrest⟩ := runFrom_of_take_none hs hanswer pieces
      obtain ⟨n, hn, hbefore, hend, hlast⟩ := ih (phase_process hs hnot) (number + 1)
      refine ⟨n + 1, Nat.succ_le_succ hn, ?_, hrest.trans hend, ?_⟩
      · intro i hi p hp
        cases i with
        | zero =>
          obtain rfl := Option.some_inj.1 hp
          exact hnot
        | succ j =>
          rw [Nat.add_comm j 1, ← Nat.add_assoc]
          exact hbefore j (Nat.lt_of_succ_lt_succ hi) p hp
      · rw [hdone, Nat.add_comm n 1, ← Nat.add_assoc, Nat.add_comm 1 n]
        exact hlast

/-- A script that ended is not continued. -/
theorem runFrom_append {strict : Bool} {number : Nat} {s : Session} {inputs : List InputLine}
    (h : (runFrom strict number s inputs).answer ≠ .error .missingStop)
    (others : List InputLine) :
    runFrom strict number s (inputs ++ others) = runFrom strict number s inputs := by
  induction inputs generalizing s number with
  | nil => exact absurd rfl h
  | cons input inputs ih =>
    rw [List.cons_append]
    cases hanswer : (take strict number s input).answer with
    | some result => simp only [runFrom, hanswer]
    | none =>
      simp only [runFrom, hanswer] at h ⊢
      rw [ih h]

/-- **Where a script ends.** Take any input, split into its lines, and an idle session. The script
goes through the lines up to the first that ends it, or through all of them; the number in a message
counts every line from the first. The session, with its registers and its items, is what these lines
made of it, and once a beginning of the input has ended the script, the bytes behind it are of no
effect. -/
theorem runLines_cuts_at_first_end (strict : Bool) (s : Session) (hs : s.phase = .idle)
    (bytes : List UInt8) :
    (∃ pieces n, SplitsInto lineFeed carriageReturn bytes pieces ∧ n ≤ pieces.length ∧
      let done := runLines strict s (inputLines bytes)
      (∀ i < n, ∀ piece ∈ pieces[i]?, ∀ result, ¬ Ends strict (i + 1) piece result) ∧
      done.state = (pieces.take (n + 1)).foldl process s ∧
      match pieces[n]? with
      | some piece => Ends strict (n + 1) piece (messages? done.answer)
      | none => messages? done.answer = some ["Missing stop command"]) ∧
    ∀ head rest, bytes = head ++ lineFeed :: rest →
      (runLines strict s (inputLines (head ++ [lineFeed]))).answer ≠ .error .missingStop →
      runLines strict s (inputLines bytes) =
        runLines strict s (inputLines (head ++ [lineFeed])) := by
  constructor
  · obtain ⟨n, hn, hbefore, hend, hlast⟩ := runFrom_cut hs strict 1 (physicalLines bytes)
    refine ⟨physicalLines bytes, n, splitsInto_iff.2 rfl, hn, ?_, hend, ?_⟩
    · intro i hi
      rw [Nat.add_comm]
      exact hbefore i hi
    · rw [Nat.add_comm]
      exact hlast
  · intro head rest hbytes hended
    rw [hbytes, inputLines, physicalLines_append_lineFeed, List.map_append]
    exact runFrom_append hended _

/-- A comment and a blank line count, so the line that ends this strict script is the third; the
stop after it is not reached. -/
theorem runLines_cuts_at_first_end_third_line :
    let head := encode "# sets\r\n\nprint_set SETG"
    let bytes := head ++ lineFeed :: encode "stop\n"
    let done := runLines true .captured (inputLines bytes)
    Session.captured.phase = .idle ∧
    done.answer = .error (.abortedLine 3) ∧
    done.state.transcript = #["> print_set SETG", "Error: Invalid set name."] ∧
    (∃ pieces n, SplitsInto lineFeed carriageReturn bytes pieces ∧ n ≤ pieces.length ∧
      done.state = (pieces.take (n + 1)).foldl process .captured) ∧
    runLines true .captured (inputLines bytes) =
      runLines true .captured (inputLines (head ++ [lineFeed])) := by
  intro head bytes done
  have hended : (runLines true .captured (inputLines (head ++ [lineFeed]))).answer ≠
      .error .missingStop := by
    decide +kernel
  obtain ⟨⟨pieces, n, hpieces, hn, -, hstate, -⟩, hcut⟩ :=
    runLines_cuts_at_first_end true .captured rfl bytes
  refine ⟨rfl, ?_, ?_, ⟨pieces, n, hpieces, hn, hstate⟩, hcut head _ rfl hended⟩
  · decide +kernel
  · decide +kernel

end SetCalculator.Script
