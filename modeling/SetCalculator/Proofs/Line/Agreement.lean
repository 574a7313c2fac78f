import SetCalculator.Proofs.Line.Operands

/-!
# Judging and building agree

A line is judged by `Verdict.ofLine` and then gone through once more to build its command. The
second pass has refusals of its own, for a word that names no register and for a number that is no
member. `judging_agrees_with_building` says that they never show: reading a line is refused exactly
if it was rejected, and with the same reason, and an accepted line always gives a command with the
keyword that was accepted. No operand is lost on the way, and none of the members of a command that
reads is refused by the set that it is inserted into.
-/

namespace SetCalculator

open Text

/-- The keyword of a line is its first word. -/
theorem keyword?_eq_some_iff {ws : List (List Char)} {keyword : Keyword} :
    keyword? ws = some keyword ↔ ∃ rest, ws = keyword.text.toList :: rest := by
  cases ws with
  | nil => simp [keyword?]
  | cons w ws => simp [keyword?, Keyword.ofText?_eq_some_iff]

/-- Judging skips the blank lines and no others. -/
theorem Verdict.ofLine_eq_skip_iff {line : List Char} :
    Verdict.ofLine line = .ok .skip ↔ isBlankLine line = true := by
  unfold Verdict.ofLine
  split
  · rename_i h
    simp [h]
  · rename_i h
    refine iff_of_false (fun hskip => ?_) h
    obtain ⟨_, -, hskip⟩ := bind_eq_ok_iff.1 hskip
    split at hskip
    · cases hskip
    · obtain ⟨_, -, hskip⟩ := bind_eq_ok_iff.1 hskip
      cases hskip

/-- A line is accepted if its commas, its keyword and its operands are in order. -/
theorem Verdict.ofLine_eq_accept_iff {line : List Char} {keyword : Keyword} :
    Verdict.ofLine line = .ok (.accept keyword) ↔
      isBlankLine line = false ∧ checkCommas line = .ok () ∧
        ∃ ws, words line = keyword.text.toList :: ws ∧ checkOperands keyword ws = .ok () := by
  unfold Verdict.ofLine
  split
  · rename_i h
    simp [h]
  · rename_i h
    refine ⟨fun haccept => ?_, fun h => ?_⟩
    · obtain ⟨_, hcommas, haccept⟩ := bind_eq_ok_iff.1 haccept
      split at haccept
      · cases haccept
      · rename_i k hk
        obtain ⟨_, hoperands, haccept⟩ := bind_eq_ok_iff.1 haccept
        cases haccept
        obtain ⟨ws, hws⟩ := keyword?_eq_some_iff.1 hk
        rw [hws] at hoperands
        exact ⟨by simpa using h, hcommas, ws, hws, hoperands⟩
    · obtain ⟨-, hcommas, ws, hws, hoperands⟩ := h
      have hk := keyword?_eq_some_iff.2 ⟨ws, hws⟩
      refine bind_eq_ok_iff.2 ⟨(), hcommas, ?_⟩
      rw [hk]
      refine bind_eq_ok_iff.2 ⟨(), ?_, rfl⟩
      rwa [hws]

/-! ## What building gives -/

/-- A line that judging rejects is rejected by building, with the same reason. -/
theorem Command.ofLine_of_error {line : List Char} {e : Rejection}
    (h : Verdict.ofLine line = .error e) : Command.ofLine line = .error e := by
  rw [Command.ofLine, h]
  rfl

/-- A line that judging skips gives no command. -/
theorem Command.ofLine_of_skip {line : List Char} (h : Verdict.ofLine line = .ok .skip) :
    Command.ofLine line = .ok none := by
  rw [Command.ofLine, h]
  rfl

/-- An accepted line has a command, and the command has the accepted keyword. -/
theorem Command.ofLine_of_accept {line : List Char} {keyword : Keyword}
    (h : Verdict.ofLine line = .ok (.accept keyword)) :
    ∃ c : Command, c.keyword = keyword ∧ Command.build keyword (words line).tail = .ok c ∧
      Command.ofLine line = .ok (some c) := by
  obtain ⟨-, -, ws, hws, hoperands⟩ := Verdict.ofLine_eq_accept_iff.1 h
  obtain ⟨c, hc, hbuild⟩ := exists_build_eq_ok hoperands
  have htail : Command.build keyword (words line).tail = .ok c := by
    rw [hws, List.tail_cons, hbuild]
  refine ⟨c, hc, htail, ?_⟩
  rw [Command.ofLine, h]
  exact bind_eq_ok_iff.2 ⟨_, rfl, bind_eq_ok_iff.2 ⟨c, htail, rfl⟩⟩

/-- **The two passes on one line.** Either both refuse it for one reason, or both find it blank, or
the second builds a command with the keyword that the first accepted. -/
theorem Command.ofLine_cases (line : List Char) :
    (∃ e, Verdict.ofLine line = .error e ∧ Command.ofLine line = .error e) ∨
    (Verdict.ofLine line = .ok .skip ∧ Command.ofLine line = .ok none) ∨
    ∃ c : Command, Verdict.ofLine line = .ok (.accept c.keyword) ∧
      Command.build c.keyword (words line).tail = .ok c ∧ Command.ofLine line = .ok (some c) := by
  cases hv : Verdict.ofLine line with
  | error e => exact .inl ⟨e, rfl, Command.ofLine_of_error hv⟩
  | ok verdict =>
    cases verdict with
    | skip => exact .inr (.inl ⟨rfl, Command.ofLine_of_skip hv⟩)
    | accept keyword =>
      obtain ⟨c, rfl, hbuild, hline⟩ := Command.ofLine_of_accept hv
      exact .inr (.inr ⟨c, rfl, hbuild, hline⟩)

/-- **The lines of a command**, by their words: the keyword and then the operands. -/
theorem Command.ofLine_eq_some_iff {line : List Char} {c : Command} :
    Command.ofLine line = .ok (some c) ↔
      isBlankLine line = false ∧ checkCommas line = .ok () ∧
        ∃ ws, words line = c.keyword.text.toList :: ws ∧ c.OperandWords ws := by
  refine ⟨fun h => ?_, fun h => ?_⟩
  · rcases Command.ofLine_cases line with ⟨e, -, hline⟩ | ⟨-, hline⟩ | ⟨c', hv, hbuild, hline⟩
    · rw [hline] at h
      cases h
    · rw [hline] at h
      cases h
    · rw [hline] at h
      cases h
      obtain ⟨hblank, hcommas, ws, hws, hoperands⟩ := Verdict.ofLine_eq_accept_iff.1 hv
      rw [hws, List.tail_cons] at hbuild
      exact ⟨hblank, hcommas, ws, hws, ((build_eq_ok_iff hoperands).1 hbuild).2⟩
  · obtain ⟨hblank, hcommas, ws, hws, hc⟩ := h
    have hoperands := checkOperands_eq_ok_iff.2 ⟨c, rfl, hc⟩
    have hv := Verdict.ofLine_eq_accept_iff.2 ⟨hblank, hcommas, ws, hws, hoperands⟩
    obtain ⟨c', -, hbuild, hline⟩ := Command.ofLine_of_accept hv
    rw [hws, List.tail_cons, build_of_operandWords hc] at hbuild
    cases hbuild
    exact hline

/-! ## The words of an accepted command -/

/-- Where the command takes a register, one is named. -/
theorem Command.OperandWords.register {c : Command} {ws : List (List Char)}
    (h : c.OperandWords ws) {i : Nat} (hi : i < c.keyword.registerCount) :
    ∃ r : Register, ws[i]? = some r.name.toList := by
  cases c with
  | read target members =>
    obtain ⟨numbers, last, rfl, -, -⟩ := h
    obtain rfl : i = 0 := by simpa [Command.keyword, Keyword.registerCount] using hi
    exact ⟨target, rfl⟩
  | print r =>
    obtain rfl := h
    obtain rfl : i = 0 := by simpa [Command.keyword, Keyword.registerCount] using hi
    exact ⟨r, rfl⟩
  | combine op lhs rhs dest =>
    obtain rfl := h
    match i, hi with
    | 0, _ => exact ⟨lhs, rfl⟩
    | 1, _ => exact ⟨rhs, rfl⟩
    | 2, _ => exact ⟨dest, rfl⟩
  | stop => cases hi

/-- The members of a command that reads are below the size of the universe, and there is one for
each number but the last. -/
theorem Command.OperandWords.members {target : Register} {members : List Nat}
    {ws : List (List Char)} (h : (Command.read target members).OperandWords ws) :
    (∀ m ∈ members, m < MemberSet.universeSize) ∧ ws.length = members.length + 2 := by
  obtain ⟨numbers, last, rfl, hnumbers, -⟩ := h
  refine ⟨fun m hm => ?_, by simp [hnumbers.length_eq]⟩
  induction hnumbers with
  | nil => cases hm
  | cons hw _ ih =>
    rcases List.mem_cons.1 hm with rfl | hm
    · exact hw.2
    · exact ih hm

/-- Every number but the last of a command that reads denotes a member. -/
theorem Command.OperandWords.numbers {target : Register} {members : List Nat}
    {ws : List (List Char)} (h : (Command.read target members).OperandWords ws) :
    ws.tail ≠ [] ∧ ∀ w ∈ ws.tail.dropLast, ∃ m, DenotesMember w m := by
  obtain ⟨numbers, last, rfl, hnumbers, -⟩ := h
  refine ⟨by simp, fun w hw => ?_⟩
  rw [List.tail_cons, List.dropLast_concat] at hw
  induction hnumbers with
  | nil => cases hw
  | cons hm _ ih =>
    rcases List.mem_cons.1 hw with rfl | hw
    · exact ⟨_, hm⟩
    · exact ih hw

/-! ## The two passes -/

/-- **The second pass adds no verdict of its own.** -/
theorem Command.ofLine_eq_error_iff {line : List Char} {e : Rejection} :
    Command.ofLine line = .error e ↔ Verdict.ofLine line = .error e := by
  rcases Command.ofLine_cases line with ⟨e', hv, hline⟩ | ⟨hv, hline⟩ | ⟨c, hv, -, hline⟩
  all_goals simp [hv, hline]

/-- Building gives no command exactly for the lines that judging skips. -/
theorem Command.ofLine_eq_none_iff {line : List Char} :
    Command.ofLine line = .ok none ↔ Verdict.ofLine line = .ok .skip := by
  rcases Command.ofLine_cases line with ⟨e, hv, hline⟩ | ⟨hv, hline⟩ | ⟨c, hv, -, hline⟩
  all_goals simp [hv, hline]

/-- Judging accepts a line for a keyword exactly if building gives a command of this keyword. -/
theorem Command.exists_ofLine_eq_some_iff {line : List Char} {keyword : Keyword} :
    Verdict.ofLine line = .ok (.accept keyword) ↔
      ∃ c : Command, Command.ofLine line = .ok (some c) ∧ c.keyword = keyword := by
  rcases Command.ofLine_cases line with ⟨e, hv, hline⟩ | ⟨hv, hline⟩ | ⟨c, hv, -, hline⟩
  all_goals simp [hv, hline]

/-- No step of the building refuses an operand of an accepted line. -/
theorem Command.operands_of_accept {line : List Char} {keyword : Keyword}
    (h : Verdict.ofLine line = .ok (.accept keyword)) :
    (∀ i < keyword.registerCount, ∃ r, Command.buildRegister (words line).tail[i]? = .ok r) ∧
      (keyword = .read → (words line).tail.tail ≠ [] ∧
        ∀ w ∈ (words line).tail.tail.dropLast, ∃ m, Command.buildMember w = .ok m) := by
  obtain ⟨c, hline, rfl⟩ := Command.exists_ofLine_eq_some_iff.1 h
  obtain ⟨-, -, ws, hws, hc⟩ := Command.ofLine_eq_some_iff.1 hline
  rw [hws, List.tail_cons]
  refine ⟨fun i hi => ?_, fun hread => ?_⟩
  · obtain ⟨r, hr⟩ := hc.register hi
    exact ⟨r, buildRegister_eq_ok_iff.2 hr⟩
  · cases c with
    | read target members =>
      obtain ⟨hne, hnumbers⟩ := hc.numbers
      refine ⟨hne, fun w hw => ?_⟩
      obtain ⟨m, hm⟩ := hnumbers w hw
      exact ⟨m, buildMember_eq_ok_iff.2 hm⟩
    | print | combine | stop => cases hread

/-- The members of an accepted command can be inserted into every set, and they are as many as the
words of the line but for the keyword, the target and the terminator. -/
theorem Command.members_of_ofLine {line : List Char} {target : Register} {members : List Nat}
    (h : Command.ofLine line = .ok (some (.read target members))) :
    (∀ m ∈ members, m < MemberSet.universeSize) ∧ (words line).length = members.length + 3 := by
  obtain ⟨-, -, ws, hws, hc⟩ := Command.ofLine_eq_some_iff.1 h
  obtain ⟨hlt, hlen⟩ := hc.members
  exact ⟨hlt, by rw [hws, List.length_cons, hlen]⟩

/-- **Judging and building agree on every line.** Reading a line is refused exactly if the line is
rejected, and for the same reason; it gives no command exactly if the line is skipped, and a command
with a keyword exactly if the line is accepted with it. On an accepted line building succeeds, and
so does each of its steps; a command that reads has as many members as the line has words, less
three, each is at most 127, and no set refuses to insert it. -/
theorem judging_agrees_with_building (line : List Char) :
    (∀ e, Command.ofLine line = .error e ↔ Verdict.ofLine line = .error e) ∧
    (Command.ofLine line = .ok none ↔ Verdict.ofLine line = .ok .skip) ∧
    (∀ keyword, Verdict.ofLine line = .ok (.accept keyword) ↔
      ∃ c : Command, Command.ofLine line = .ok (some c) ∧ c.keyword = keyword) ∧
    (∀ keyword, Verdict.ofLine line = .ok (.accept keyword) →
      (∃ c, Command.build keyword (words line).tail = .ok c) ∧
      (∀ i < keyword.registerCount, ∃ r, Command.buildRegister (words line).tail[i]? = .ok r) ∧
      (keyword = .read → (words line).tail.tail ≠ [] ∧
        ∀ w ∈ (words line).tail.tail.dropLast, ∃ m, Command.buildMember w = .ok m)) ∧
    (∀ target members, Command.ofLine line = .ok (some (.read target members)) →
      (∀ m ∈ members, m ≤ 127 ∧ ∀ s : MemberSet, (s.insert? m).isSome) ∧
      (words line).length = members.length + 3) := by
  refine ⟨fun _ => Command.ofLine_eq_error_iff, Command.ofLine_eq_none_iff,
    fun _ => Command.exists_ofLine_eq_some_iff, fun keyword h => ?_, fun target members h => ?_⟩
  · obtain ⟨c, -, hbuild, -⟩ := Command.ofLine_of_accept h
    exact ⟨⟨c, hbuild⟩, Command.operands_of_accept h⟩
  · obtain ⟨hlt, hlen⟩ := Command.members_of_ofLine h
    refine ⟨fun m hm => ⟨Nat.le_of_lt_succ (hlt m hm), fun s => ?_⟩, hlen⟩
    exact MemberSet.isSome_insert?.2 (hlt m hm)

/-- The agreement on a line that reads two members. -/
theorem judging_agrees_with_building_read :
    Verdict.ofLine "read_set SETA, 3, +127, -1".toList = .ok (.accept .read) ∧
    Command.ofLine "read_set SETA, 3, +127, -1".toList = .ok (some (.read .a [3, 127])) ∧
    (∃ c, Command.build .read (words "read_set SETA, 3, +127, -1".toList).tail = .ok c) ∧
    (∃ r, Command.buildRegister (words "read_set SETA, 3, +127, -1".toList).tail[0]? = .ok r) ∧
    (∃ m, Command.buildMember "+127".toList = .ok m) ∧
    (127 ≤ 127 ∧ (MemberSet.empty.insert? 127).isSome) ∧
    (words "read_set SETA, 3, +127, -1".toList).length = 5 := by
  have haccept : Verdict.ofLine "read_set SETA, 3, +127, -1".toList = .ok (.accept .read) := by
    decide +kernel
  have hread : Command.ofLine "read_set SETA, 3, +127, -1".toList =
      .ok (some (.read .a [3, 127])) := by
    decide +kernel
  obtain ⟨-, -, -, hbuild, hmembers⟩ :=
    judging_agrees_with_building "read_set SETA, 3, +127, -1".toList
  obtain ⟨hcommand, hregisters, hnumbers⟩ := hbuild .read haccept
  obtain ⟨hinsert, hlen⟩ := hmembers .a [3, 127] hread
  have hin := hinsert 127 (by decide)
  exact ⟨haccept, hread, hcommand, hregisters 0 (by decide),
    (hnumbers rfl).2 "+127".toList (by decide +kernel), ⟨hin.1, hin.2 .empty⟩, hlen⟩

end SetCalculator
