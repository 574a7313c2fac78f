import SetCalculator.Proofs.Script.Transcript

/-!
# Strict scripts

Run strictly, a script shows a beginning of what it shows otherwise. As long as no line is rejected
the two runs are the same (`answer_take_strict`); the first line that is rejected ends the strict
run, right after its report (`Aborts`), while the other goes on and takes nothing back
(`transcript_prefix_runFrom`). `runFrom_strict` goes through the lines of both runs at once and says
which of the two it is, for any session that is idle and captures;
`strict_cuts_at_first_report` tells them apart by the items of the run that is not strict.
-/

namespace SetCalculator

open Text

namespace Session

/-- The items that `t` has beyond those of `s` hold no report. -/
def AddsNoReport (s t : Session) : Prop :=
  ∃ added, t.transcript.toList = s.transcript.toList ++ added ∧ ∀ item ∈ added, ¬ IsReport item

/-- A session that stays as it is adds no report. -/
theorem AddsNoReport.refl (s : Session) : s.AddsNoReport s :=
  ⟨[], (List.append_nil _).symm, List.forall_mem_nil _⟩

/-- What adds no report twice adds none. -/
theorem AddsNoReport.trans {s t u : Session} (hst : s.AddsNoReport t) (htu : t.AddsNoReport u) :
    s.AddsNoReport u := by
  obtain ⟨first, ht, hfirst⟩ := hst
  obtain ⟨second, hu, hsecond⟩ := htu
  refine ⟨first ++ second, ?_, ?_⟩
  · rw [hu, ht, List.append_assoc]
  · intro item hitem
    rcases List.mem_append.1 hitem with hitem | hitem
    · exact hfirst item hitem
    · exact hsecond item hitem

end Session

namespace Script

/-! ## One piece of the input, strictly and otherwise -/

section

variable {s : Session} (hs : s.phase = .idle) {piece : List UInt8}
include hs

/-- A rejected line ends a strict script, and no other. -/
theorem answer_take_of_rejected {rejection : Rejection} (h : Rejected piece rejection)
    (strict : Bool) (number : Nat) :
    (take strict number s (InputLine.ofBytes piece)).answer =
      if strict then some (.error (.abortedLine number)) else none := by
  obtain ⟨line, hdecode, hskip, hline⟩ := h
  rw [take_of_text strict number s hdecode, answer_runLine strict number hs hskip, hline]

/-- Whether a script is strict matters for no other piece. -/
theorem answer_take_strict (h : ∀ rejection, ¬ Rejected piece rejection) (number : Nat) :
    (take true number s (InputLine.ofBytes piece)).answer =
      (take false number s (InputLine.ofBytes piece)).answer := by
  cases hdecode : decode? piece with
  | none => rw [take_of_notText true number s hdecode, take_of_notText false number s hdecode]
  | some line =>
    rw [take_of_text true number s hdecode, take_of_text false number s hdecode]
    by_cases hskip : Skipped line.toList
    · rw [runLine_of_skipped true number hskip, runLine_of_skipped false number hskip]
    · rw [answer_runLine true number hs hskip, answer_runLine false number hs hskip]
      cases hline : Command.ofLine line.toList with
      | error rejection => exact absurd ⟨line, hdecode, hskip, hline⟩ (h rejection)
      | ok asked =>
        rcases asked with _ | ⟨_ | _ | _ | _⟩
        all_goals rfl

/-- A line that is not rejected adds no report. -/
theorem addsNoReport_process (hcaptures : s.capturing = true)
    (h : ∀ rejection, ¬ Rejected piece rejection) : s.AddsNoReport (process s piece) :=
  ⟨shownFor s piece, transcript_process hs hcaptures piece, not_isReport_of_mem_shownFor h⟩

/-- A rejected line leaves the session idle. -/
theorem phase_process_of_rejected {rejection : Rejection} (h : Rejected piece rejection) :
    (process s piece).phase = .idle :=
  phase_process_of_take hs (answer_take_of_rejected hs h false 0)

end

/-- A rejected line leaves the registers alone. -/
theorem registers_process_of_rejected (s : Session) {piece : List UInt8} {rejection : Rejection}
    (h : Rejected piece rejection) : (process s piece).registers = s.registers := by
  obtain ⟨line, hdecode, hskip, hline⟩ := h
  rw [process_of_not_skipped s hdecode hskip, Session.feed_of_rejected hline]
  exact (Session.registers_emit _ _ _).trans (Session.registers_emit s _ _)

/-- A script takes nothing back of what was shown before it. -/
theorem transcript_prefix_runFrom {s : Session} (hs : s.phase = .idle)
    (hcaptures : s.capturing = true) (strict : Bool) (number : Nat) (pieces : List (List UInt8)) :
    s.transcript.toList <+:
      (runFrom strict number s (pieces.map InputLine.ofBytes)).state.transcript.toList := by
  induction pieces generalizing s number with
  | nil => exact List.prefix_rfl
  | cons piece pieces ih =>
    have hprocess := transcript_prefix_process hcaptures piece
    cases hanswer : (take strict number s (InputLine.ofBytes piece)).answer with
    | some result =>
      obtain ⟨-, hstate⟩ := runFrom_of_take_some hs hanswer pieces
      rw [hstate]
      exact hprocess
    | none =>
      obtain ⟨-, hstate⟩ := runFrom_of_take_none hs hanswer pieces
      rw [hstate]
      exact hprocess.trans (ih (phase_process_of_take hs hanswer)
        ((capturing_process s piece).trans hcaptures) (number + 1))

/-! ## The first line that is rejected -/

/-- The piece `k` is rejected, and none before it. -/
structure FirstRejected (pieces : List (List UInt8)) (k : Nat) (piece : List UInt8)
    (rejection : Rejection) : Prop where
  here : pieces[k]? = some piece
  rejected : Rejected piece rejection
  earlier : ∀ i < k, ∀ other ∈ pieces[i]?, ∀ reason, ¬ Rejected other reason

/-- The first piece is the first one rejected, if it is. -/
theorem FirstRejected.head {piece : List UInt8} {rejection : Rejection}
    (h : Rejected piece rejection) (pieces : List (List UInt8)) :
    FirstRejected (piece :: pieces) 0 piece rejection :=
  ⟨rfl, h, fun i hi => absurd hi (Nat.not_lt_zero i)⟩

/-- A piece that is not rejected may stand in front. -/
theorem FirstRejected.cons {first piece : List UInt8} {pieces : List (List UInt8)} {k : Nat}
    {rejection : Rejection} (hfirst : ∀ reason, ¬ Rejected first reason)
    (h : FirstRejected pieces k piece rejection) :
    FirstRejected (first :: pieces) (k + 1) piece rejection := by
  refine ⟨h.here, h.rejected, ?_⟩
  intro i hi other hother
  cases i with
  | zero =>
    obtain rfl := Option.some_inj.1 hother
    exact hfirst
  | succ j => exact h.earlier j (Nat.lt_of_succ_lt_succ hi) other hother

/-- Started in `s`, the strict run is ended by the rejected line in `piece`, `k` lines after the one
with the given number. Up to there it went like the run `before`, and the run `lenient` goes on
after it. -/
structure Aborts (s : Session) (number k : Nat) (piece : List UInt8)
    (strict lenient before : Step Session (Except Failure Unit)) : Prop where
  answer : strict.answer = .error (.abortedLine (number + k))
  state : strict.state = process before.state piece
  idle : before.state.phase = .idle
  captures : before.state.capturing = true
  noReport : s.AddsNoReport before.state
  goesOn : strict.state.transcript.toList <+: lenient.state.transcript.toList

section

variable {s : Session} {number k : Nat} {piece : List UInt8} {rejection : Rejection}
  {strict lenient before : Step Session (Except Failure Unit)}
  (h : Aborts s number k piece strict lenient before)
include h

/-- A strict run that is ended so says which line it was. -/
theorem Aborts.messages_eq : messages? strict.answer =
    some ["Line " ++ toString (number + k) ++ ": aborted on rejected command"] := by
  rw [h.answer]
  rfl

variable (hrejected : Rejected piece rejection)
include hrejected

/-- A strict run that is ended by a rejected line has not stopped its session. -/
theorem Aborts.phase_eq : strict.state.phase = .idle := by
  rw [h.state]
  exact phase_process_of_rejected h.idle hrejected

/-- The rejected line that ends a strict run changed no register. -/
theorem Aborts.registers_eq : strict.state.registers = before.state.registers := by
  rw [h.state, registers_process_of_rejected before.state hrejected]

/-- The report of the rejected line is the last item of the strict run and its only report; the
other run shows the same up to there, and may show more. -/
theorem Aborts.exists_cut :
    ∃ shown after, (∀ item ∈ shown, ¬ IsReport item) ∧
      strict.state.transcript.toList =
        s.transcript.toList ++ (shown ++ ["Error: " ++ rejection.message]) ∧
      lenient.state.transcript.toList =
        s.transcript.toList ++ (shown ++ ("Error: " ++ rejection.message) :: after) := by
  obtain ⟨added, hadded, hnone⟩ := h.noReport
  obtain ⟨echo, hecho, hshown⟩ := shownFor_of_rejected before.state hrejected
  obtain ⟨after, hafter⟩ := h.goesOn
  have hitems : strict.state.transcript.toList =
      s.transcript.toList ++ (added ++ [echo] ++ ["Error: " ++ rejection.message]) := by
    rw [h.state, transcript_process h.idle h.captures, hshown, hadded]
    simp only [List.append_assoc, List.cons_append, List.nil_append]
  refine ⟨added ++ [echo], after, ?_, hitems, ?_⟩
  · intro item hitem
    rcases List.mem_append.1 hitem with hitem | hitem
    · exact hnone item hitem
    · obtain rfl := List.mem_singleton.1 hitem
      exact hecho
  · rw [← hafter, hitems]
    simp only [List.append_assoc, List.cons_append, List.nil_append]

end

/-- A run that is aborted is aborted also with one more line before it that adds no report. -/
theorem Aborts.cons {s s' : Session} {number k : Nat} {piece : List UInt8}
    {strict lenient before strict' lenient' before' : Step Session (Except Failure Unit)}
    (h : Aborts s' (number + 1) k piece strict' lenient' before') (hadds : s.AddsNoReport s')
    (hstrict : strict.answer = strict'.answer ∧ strict.state = strict'.state)
    (hlenient : lenient.state = lenient'.state) (hbefore : before.state = before'.state) :
    Aborts s number (k + 1) piece strict lenient before := by
  obtain ⟨hanswer, hstate, hidle, hcaptures, hnone, hgoesOn⟩ := h
  rw [← hbefore] at hstate hidle hcaptures hnone
  rw [← hstrict.2] at hstate
  rw [← hstrict.2, ← hlenient] at hgoesOn
  refine ⟨?_, hstate, hidle, hcaptures, hadds.trans hnone, hgoesOn⟩
  rw [hstrict.1, hanswer, Nat.add_assoc, Nat.add_comm 1]

/-! ## Both runs -/

/-- **Both runs, line by line.** They are the same and there was no report, or the strict one is
ended by the first line that is rejected. -/
theorem runFrom_strict {s : Session} (hs : s.phase = .idle) (hcaptures : s.capturing = true)
    (number : Nat) (pieces : List (List UInt8)) :
    let strict := runFrom true number s (pieces.map InputLine.ofBytes)
    let lenient := runFrom false number s (pieces.map InputLine.ofBytes)
    (strict.answer = lenient.answer ∧ strict.state = lenient.state ∧
        s.AddsNoReport lenient.state) ∨
      ∃ k piece rejection, FirstRejected pieces k piece rejection ∧
        Aborts s number k piece strict lenient
          (runFrom false number s ((pieces.take k).map InputLine.ofBytes)) := by
  induction pieces generalizing s number with
  | nil => exact .inl ⟨rfl, rfl, .refl s⟩
  | cons piece pieces ih =>
    intro strict lenient
    have hgoesOn : (process s piece).capturing = true :=
      (capturing_process s piece).trans hcaptures
    by_cases hrejected : ∃ rejection, Rejected piece rejection
    · -- The strict run ends here, and the other goes on with the next line.
      obtain ⟨rejection, hrejected⟩ := hrejected
      obtain ⟨hanswer, hstate⟩ :=
        runFrom_of_take_some hs (answer_take_of_rejected hs hrejected true number) pieces
      obtain ⟨-, hrest⟩ :=
        runFrom_of_take_none hs (answer_take_of_rejected hs hrejected false number) pieces
      refine .inr ⟨0, piece, rejection, .head hrejected pieces, hanswer, hstate, hs, hcaptures,
        .refl s, ?_⟩
      rw [show strict.state = _ from hstate, show lenient.state = _ from hrest]
      exact transcript_prefix_runFrom (phase_process_of_rejected hs hrejected) hgoesOn false
        (number + 1) pieces
    · have hnot : ∀ rejection, ¬ Rejected piece rejection :=
        fun rejection h => hrejected ⟨rejection, h⟩
      have hadds := addsNoReport_process hs hcaptures hnot
      have hsame := answer_take_strict hs hnot number
      cases hanswer : (take false number s (InputLine.ofBytes piece)).answer with
      | some result =>
        obtain ⟨hlenient, hlenientState⟩ := runFrom_of_take_some hs hanswer pieces
        obtain ⟨hstrict, hstrictState⟩ := runFrom_of_take_some hs (hsame.trans hanswer) pieces
        refine .inl ⟨hstrict.trans hlenient.symm, hstrictState.trans hlenientState.symm, ?_⟩
        rw [show lenient.state = _ from hlenientState]
        exact hadds
      | none =>
        -- Neither run ends here, so the line stands in front of what the hypothesis says of
        -- the others.
        obtain ⟨hlenient, hlenientState⟩ := runFrom_of_take_none hs hanswer pieces
        obtain ⟨hstrict, hstrictState⟩ := runFrom_of_take_none hs (hsame.trans hanswer) pieces
        rcases ih (phase_process_of_take hs hanswer) hgoesOn (number + 1) with
          ⟨hanswers, hstates, hnone⟩ | ⟨k, rejectedPiece, rejection, hfirst, haborts⟩
        · refine .inl ⟨hstrict.trans (hanswers.trans hlenient.symm),
            hstrictState.trans (hstates.trans hlenientState.symm), hadds.trans ?_⟩
          rw [show lenient.state = _ from hlenientState]
          exact hnone
        · obtain ⟨-, hbefore⟩ := runFrom_of_take_none hs hanswer (pieces.take k)
          rw [← List.take_succ_cons] at hbefore
          exact .inr ⟨k + 1, rejectedPiece, rejection, hfirst.cons hnot,
            haborts.cons hadds ⟨hstrict, hstrictState⟩ hlenientState hbefore⟩

/-- **A strict script is cut at its first report.** Run any bytes as a script in two fresh sessions
that capture, once strictly and once not. The strict run shows a beginning of what the other shows.
If the other shows no report, the runs end alike and leave the same session. If it shows one, the
strict run shows all up to the first and nothing after it; the line that is reported is the first
that is rejected, the strict run says that it ended at the number of this line, counting every line
of the input, and its session is idle and has the registers that the lines before leave when they
are a script by themselves. -/
theorem strict_cuts_at_first_report (bytes : List UInt8) :
    let strict : Step Session (Except Failure Unit) := runLines true .captured (inputLines bytes)
    let lenient : Step Session (Except Failure Unit) := runLines false .captured (inputLines bytes)
    let shown := lenient.state.transcript.toList
    strict.state.transcript.toList <+: shown ∧
    ((∀ item ∈ shown, ¬ IsReport item) →
      strict.answer = lenient.answer ∧ strict.state = lenient.state) ∧
    ((∃ item ∈ shown, IsReport item) →
      ∃ before report after, shown = before ++ report :: after ∧
        (∀ item ∈ before, ¬ IsReport item) ∧ IsReport report ∧
        strict.state.transcript.toList = before ++ [report] ∧
        ∃ pieces k piece rejection head rest,
          SplitsInto lineFeed carriageReturn bytes pieces ∧
          FirstRejected pieces k piece rejection ∧ report = "Error: " ++ rejection.message ∧
          messages? strict.answer =
            some ["Line " ++ toString (k + 1) ++ ": aborted on rejected command"] ∧
          strict.state.phase = .idle ∧
          bytes = head ++ rest ∧ SplitsInto lineFeed carriageReturn head (pieces.take k) ∧
          strict.state.registers =
            (runLines false .captured (inputLines head)).state.registers) := by
  intro strict lenient shown
  rcases runFrom_strict (s := .captured) rfl rfl 1 (physicalLines bytes) with
    ⟨hanswer, hstate, added, hadded, hnone⟩ | ⟨k, piece, rejection, hfirst, haborts⟩
  · have hshown : shown = added := hadded
    refine ⟨?_, fun _ => ⟨hanswer, hstate⟩, ?_⟩
    · rw [show strict.state = _ from hstate]
      exact List.prefix_rfl
    · rintro ⟨item, hitem, hreport⟩
      rw [hshown] at hitem
      exact absurd hreport (hnone item hitem)
  · have hpieces := splitsInto_physicalLines bytes
    obtain ⟨head, rest, hbytes, hhead⟩ := hpieces.exists_take k
    -- The run of the lines before the rejected one is a run of the beginning that they make up.
    have hcuts : Aborts .captured 1 k piece strict lenient
        (runLines false .captured (inputLines head)) := by
      rw [runLines, inputLines, ← hhead.eq_physicalLines]
      exact haborts
    obtain ⟨before, after, hbefore, hitems, hshown⟩ := hcuts.exists_cut hfirst.rejected
    refine ⟨hcuts.goesOn, ?_, fun _ => ?_⟩
    · intro hnone
      refine absurd (isReport_report rejection.message) (hnone _ ?_)
      rw [show shown = _ from hshown]
      exact List.mem_append_right _ (List.mem_append_right _ List.mem_cons_self)
    · refine ⟨before, _, after, hshown, hbefore, isReport_report _, hitems, physicalLines bytes, k,
        piece, rejection, head, rest, hpieces, hfirst, rfl, ?_, hcuts.phase_eq hfirst.rejected,
        hbytes, hhead, hcuts.registers_eq hfirst.rejected⟩
      rw [Nat.add_comm]
      exact hcuts.messages_eq

/-- A script without a report, and one in which a comment and a blank line come before the line that
is rejected; the set that it would have replaced after that is kept. -/
theorem strict_cuts_at_first_report_fourth_line :
    let clean := encode "read_set SETA, 5, -1\nprint_set SETA\nstop\n"
    let bytes := encode
      "# sets\n\nread_set SETA, 5, -1\nprint_set SETG\nread_set SETA, 9, -1\nprint_set SETA\n"
    let strict := runLines true .captured (inputLines bytes)
    let shown := (runLines false .captured (inputLines bytes)).state.transcript.toList
    (∀ item ∈ (runLines false .captured (inputLines clean)).state.transcript.toList,
      ¬ IsReport item) ∧
    (runLines true .captured (inputLines clean)).answer = .ok () ∧
    (∃ item ∈ shown, IsReport item) ∧
    strict.answer = .error (.abortedLine 4) ∧
    (∃ before report after, shown = before ++ report :: after ∧
      strict.state.transcript.toList = before ++ [report]) ∧
    (∃ head rest, bytes = head ++ rest ∧
      strict.state.registers = (runLines false .captured (inputLines head)).state.registers) ∧
    strict.state.registers.get .a =
      (Session.captured.feed "read_set SETA, 5, -1").state.registers.get .a := by
  intro clean bytes strict shown
  have hclean : ∀ item ∈ (runLines false .captured (inputLines clean)).state.transcript.toList,
      ¬ IsReport item := by
    decide +kernel
  have hreported : ∃ item ∈ shown, IsReport item := by decide +kernel
  obtain ⟨-, hsame, -⟩ := strict_cuts_at_first_report clean
  obtain ⟨-, -, hcut⟩ := strict_cuts_at_first_report bytes
  obtain ⟨before, report, after, hshown, -, -, hitems, -, -, -, -, head, rest, -, -, -, -, -,
    hbytes, -, hregisters⟩ := hcut hreported
  refine ⟨hclean, (hsame hclean).1.trans (by decide +kernel), hreported, by decide +kernel,
    ⟨before, report, after, hshown, hitems⟩, ⟨head, rest, hbytes, hregisters⟩, by decide +kernel⟩

end Script

end SetCalculator
