import SetCalculator.Proofs.Line.Grammar
import SetCalculator.Proofs.MemberSet.Rendering
import SetCalculator.Proofs.Session.Stopped

/-!
# Reading back what was printed

The text of a set without its braces is a list of operands: it goes behind the name of a register in
a line that reads, and the set is restored. `readBackLine` is this line.

The text is cut into rows, so two members stand apart by a comma and a space or by a comma and a
line feed. The grammar of commands takes either, a line feed being a blank (`exists_separator_eq`).
By induction over the members the text after any of them spells the members that follow
(`furtherOperands_renderAfter`). What is read is the listing of the set, and to refill a register by
the listing of a set gives that set, whatever the register held (`refill_toList`).
-/

namespace SetCalculator

open Text

/-- The line that reads a printed set into the register. -/
def readBackLine (q : Register) (text : String) : String :=
  if text = MemberSet.emptyText then "read_set " ++ q.name ++ ", -1"
  else "read_set " ++ q.name ++ ", " ++ String.ofList text.toList.tail.dropLast ++ ", -1"

/-! ## Members as operands -/

/-- The members are words that denote them, and the terminator follows. -/
theorem operandWords_toString (q : Register) {ms : List Nat}
    (h : ∀ m ∈ ms, m < MemberSet.universeSize) :
    (Command.read q ms).OperandWords
      (q.name.toList :: (ms.map (fun m => (toString m).toList) ++ ["-1".toList])) := by
  have hterminator : Denotes "-1".toList terminator :=
    .minus (List.cons_ne_nil '1' []) (List.forall_mem_singleton.2 (by decide))
  refine ⟨_, _, rfl, ?_, hterminator⟩
  induction ms with
  | nil => exact .nil
  | cons m ms ih =>
    obtain ⟨hm, hms⟩ := List.forall_mem_cons.1 h
    exact .cons ⟨denotes_toString m, hm⟩ (ih hms)

/-- A space is a blank. -/
theorem isBlank_space : isBlank ' ' = true := by decide +kernel

/-- Two members stand apart by a comma and a blank. -/
theorem MemberSet.exists_separator_eq (count : Nat) :
    ∃ blank, isBlank blank = true ∧ (separator count).toList = [',', blank] := by
  unfold separator
  split
  · exact ⟨'\n', by decide +kernel, rfl⟩
  · exact ⟨' ', isBlank_space, rfl⟩

/-- A further operand may follow a comma and one blank. -/
theorem FurtherOperands.next_blank {blank : Char} {w rest : List Char} {ws : List (List Char)}
    (hblank : isBlank blank = true) (hrest : FurtherOperands ws rest) :
    FurtherOperands (w :: ws) ([',', blank] ++ (w ++ rest)) :=
  .next isBlankRun_nil (isBlankRun_singleton hblank) hrest

/-- The terminator ends the operands. -/
theorem furtherOperands_terminator : FurtherOperands ["-1".toList] ", -1".toList :=
  .next_blank isBlank_space (.done isBlankRun_nil)

/-- **The members after some others**, with the separators that the rows give them, are further
operands. -/
theorem furtherOperands_renderAfter (count : Nat) (ms : List Nat) :
    FurtherOperands (ms.map (fun m => (toString m).toList) ++ ["-1".toList])
      ((MemberSet.renderAfter count ms).toList ++ ", -1".toList) := by
  induction ms generalizing count with
  | nil => exact furtherOperands_terminator
  | cons m ms ih =>
    obtain ⟨blank, hblank, hseparator⟩ := MemberSet.exists_separator_eq count
    have hnext := (ih (count + 1)).next_blank (w := (toString m).toList) hblank
    simpa only [MemberSet.renderAfter, String.toList_append, hseparator, List.append_assoc,
      List.map_cons, List.cons_append] using hnext

/-! ## The line -/

/-- Between the braces of a rendered set stands its listing. -/
theorem MemberSet.tail_dropLast_renderMembers (m : Nat) (ms : List Nat) :
    String.ofList (renderMembers (m :: ms)).toList.tail.dropLast =
      toString m ++ renderAfter 1 ms := by
  have htext : (renderMembers (m :: ms)).toList =
      '\x7b' :: ((toString m ++ renderAfter 1 ms).toList ++ ['\x7d']) := by
    simp [renderMembers, String.toList_append]
  rw [htext, List.tail_cons, List.dropLast_concat, String.ofList_toList]

/-- The keyword and the register stand before the further operands. -/
theorem spells_read {q : Register} {ws : List (List Char)} {rest : List Char}
    (h : FurtherOperands ws rest) :
    Spells "read_set".toList (q.name.toList :: ws)
      ("read_set ".toList ++ (q.name.toList ++ rest)) :=
  .applied isBlankRun_nil (isBlankRun_singleton isBlank_space) (List.cons_ne_nil _ _) h

/-- **The line spells the listing of the set.** -/
theorem written_readBackLine (q : Register) (s : MemberSet) :
    (Command.read q s.toList).Written (readBackLine q s.render).toList := by
  refine ⟨_, operandWords_toString q fun _ => MemberSet.lt_of_mem_toList, ?_⟩
  rw [MemberSet.render_eq]
  cases s.toList with
  | nil =>
    rw [if_pos rfl, readBackLine, if_pos rfl]
    simp only [String.toList_append, List.append_assoc]
    exact spells_read furtherOperands_terminator
  | cons m ms =>
    have hrest := (furtherOperands_renderAfter 1 ms).next_blank (w := (toString m).toList)
      isBlank_space
    rw [if_neg (List.cons_ne_nil m ms), readBackLine,
      if_neg (MemberSet.renderMembers_ne_emptyText _), MemberSet.tail_dropLast_renderMembers]
    simp only [String.toList_append, List.append_assoc]
    exact spells_read hrest

namespace Session

/-- Printing a register only shows its set. -/
theorem onlyShows_print {s : Session} (hs : s.phase = .idle) (r : Register) :
    (s.execute (.print r)).OnlyShows s [(s.registers.get r).render] := by
  rw [execute_of_idle hs]
  exact (onlyShows_emit s .output _).congr rfl rfl

/-- **A printed set reads back.** Whatever set a register of an idle session holds, what is shown
when it is printed can be read back: the line `readBackLine` of any register is executed by any idle
session, gives this register the set that was printed, and changes nothing else. -/
theorem printed_set_reads_back {s : Session} (hs : s.phase = .idle) (r : Register) :
    ∃ text, (s.execute (.print r)).answer = .ok .continue ∧
      (s.execute (.print r)).OnlyShows s [text] ∧
      ∀ (q : Register) {t : Session}, t.phase = .idle →
        let read := t.executeLine (readBackLine q text)
        read.answer = .ok .continue ∧
        (∀ p, read.state.registers.get p =
          if p = q then s.registers.get r else t.registers.get p) ∧
        read.state = { t with registers := t.registers.set q (s.registers.get r) } := by
  refine ⟨(s.registers.get r).render, ?_, onlyShows_print hs r, ?_⟩
  · simp only [Session.execute, hs]
    rfl
  intro q t ht read
  have hline := Command.ofLine_eq_some_iff_written.2 (written_readBackLine q (s.registers.get r))
  have hread : read = _ := executeLine_of_idle ht hline
  have hstate : read.state = { t with registers := t.registers.set q (s.registers.get r) } := by
    rw [hread]
    simp only [perform, Registers.read, MemberSet.refill_toList]
  refine ⟨by rw [hread]; rfl, fun p => ?_, hstate⟩
  rw [hstate]
  exact Registers.get_set _ _ _ _

/-- A set of eighteen members takes two rows. It is printed by a session that captures, and read
back into another register of a session that prints. -/
theorem printed_set_reads_back_two_rows :
    let s := (Session.captured.execute (.read .b (List.range 18))).state
    let t := (Session.printing.execute (.read .a [127])).state
    let text :=
      "\x7b0, 1, 2, 3, 4, 5, 6, 7, 8, 9, 10, 11, 12, 13, 14, 15,\n16, 17\x7d"
    let line :=
      "read_set SETF, 0, 1, 2, 3, 4, 5, 6, 7, 8, 9, 10, 11, 12, 13, 14, 15,\n16, 17, -1"
    s.phase = .idle ∧ t.phase = .idle ∧ (s.execute (.print .b)).state.transcript = #[text] ∧
    (t.executeLine line).answer = .ok .continue ∧
    (t.executeLine line).state.registers.get .f = s.registers.get .b ∧
    (t.executeLine line).state.registers.get .a = t.registers.get .a := by
  intro s t text line
  have hshown : (s.execute (.print .b)).state.transcript = #[text] := by decide +kernel
  obtain ⟨shown, -, hshows, hreads⟩ := printed_set_reads_back (s := s) rfl .b
  obtain rfl : shown = text := by
    have hcaptured : _ = [] ++ [shown] := hshows.captured
    rw [hshown] at hcaptured
    exact (List.singleton_inj.1 hcaptured).symm
  have hline : readBackLine .f text = line := by decide +kernel
  obtain ⟨hanswer, hregisters, -⟩ := hreads .f (t := t) rfl
  rw [hline] at hanswer hregisters
  exact ⟨rfl, rfl, hshown, hanswer, hregisters .f, hregisters .a⟩

end Session

end SetCalculator
