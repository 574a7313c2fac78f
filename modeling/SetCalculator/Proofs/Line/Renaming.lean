import SetCalculator.Proofs.Line.Spacing

/-!
# Renaming the registers of a line

`renameLine p line` is the line with every word that is exactly a register name replaced by the name
of the register's image under `p`, wherever the word stands; all other words and all gaps stay. So
the layout of the line is kept but for these words (`of_rename`), and whatever reads a word sees the
renaming through one equation: a name is read as the name of the image (`ofName?_renameWord`), and a
word is a keyword or a number after it exactly if it was before, since no register name is either
(`ofText?_renameWord`, `integer?_renameWord`).

From this a renamed line gets the verdict of the line, down to the reason of a rejection
(`Verdict.ofLine_renameLine`), and asks for the renamed command (`Command.ofLine_renameLine`).
-/

namespace SetCalculator

open Text

variable (p : Register → Register)

/-! ## Words -/

/-- A word with its register renamed, if it is exactly the name of one. -/
def renameWord (w : List Char) : List Char :=
  match Register.ofName? w with
  | some r => (p r).name.toList
  | none => w

@[simp] theorem renameWord_name (r : Register) :
    renameWord p r.name.toList = (p r).name.toList := by
  rw [renameWord, Register.ofName?_name]

/-- A word that names no register is not renamed. -/
theorem renameWord_of_ofName?_eq_none {w : List Char} (h : Register.ofName? w = none) :
    renameWord p w = w := by
  rw [renameWord, h]

/-- A word is a register name, and is renamed, or it is none, and stays. -/
theorem renameWord_cases (w : List Char) :
    (∃ r : Register, w = r.name.toList ∧ renameWord p w = (p r).name.toList) ∨
    (Register.ofName? w = none ∧ renameWord p w = w) := by
  cases hw : Register.ofName? w with
  | some r =>
    obtain rfl := Register.ofName?_eq_some_iff.1 hw
    exact .inl ⟨r, rfl, renameWord_name p r⟩
  | none => exact .inr ⟨rfl, renameWord_of_ofName?_eq_none p hw⟩

/-- A renamed word is a word, since the names of the registers are. -/
theorem isWord_renameWord {w : List Char} (hw : IsWord w) : IsWord (renameWord p w) := by
  rcases renameWord_cases p w with ⟨r, -, heq⟩ | ⟨-, heq⟩
  · rw [heq]
    exact isWord_name (p r)
  · rwa [heq]

@[simp] theorem ofName?_renameWord (w : List Char) :
    Register.ofName? (renameWord p w) = (Register.ofName? w).map p := by
  rcases renameWord_cases p w with ⟨r, rfl, heq⟩ | ⟨hw, heq⟩
  · rw [heq, Register.ofName?_name, Register.ofName?_name]
    rfl
  · rw [heq, hw]
    rfl

/-- No register is named like a keyword. -/
theorem ofText?_name (r : Register) : Keyword.ofText? r.name.toList = none := by
  cases r <;> decide +kernel

@[simp] theorem ofText?_renameWord (w : List Char) :
    Keyword.ofText? (renameWord p w) = Keyword.ofText? w := by
  rcases renameWord_cases p w with ⟨r, rfl, heq⟩ | ⟨-, heq⟩
  · rw [heq, ofText?_name, ofText?_name]
  · rw [heq]

/-- A keyword names no register, so it stays. -/
theorem renameWord_text (keyword : Keyword) :
    renameWord p keyword.text.toList = keyword.text.toList := by
  rcases renameWord_cases p keyword.text.toList with ⟨r, hname, -⟩ | ⟨-, heq⟩
  · have hread := Keyword.ofText?_text keyword
    rw [hname, ofText?_name] at hread
    cases hread
  · exact heq

/-- No register is named like a number. -/
theorem integer?_name (r : Register) : integer? r.name.toList = none := by
  cases r <;> decide +kernel

@[simp] theorem integer?_renameWord (w : List Char) : integer? (renameWord p w) = integer? w := by
  rcases renameWord_cases p w with ⟨r, rfl, heq⟩ | ⟨-, heq⟩
  · rw [heq, integer?_name, integer?_name]
  · rw [heq]

/-- A numeral names no register, so it stays. -/
theorem renameWord_of_denotes {w : List Char} {z : Int} (h : Denotes w z) :
    renameWord p w = w := by
  rcases renameWord_cases p w with ⟨r, rfl, -⟩ | ⟨-, heq⟩
  · have hvalue := integer?_eq_some_iff.2 ⟨z, h, rfl⟩
    rw [integer?_name] at hvalue
    cases hvalue
  · exact heq

/-! ## Layouts and lines -/

/-- The layout with its register names renamed. -/
def Layout.rename (L : Layout) : Layout :=
  { L with parts := L.parts.map fun part => (renameWord p part.1, part.2) }

/-- The line with its register names renamed. -/
def renameLine (line : List Char) : List Char := ((Layout.ofLine line).rename p).text

namespace Layout

@[simp] theorem words_rename (L : Layout) : (L.rename p).words = L.words.map (renameWord p) := by
  simp [rename, words]

@[simp] theorem gaps_rename (L : Layout) : (L.rename p).gaps = L.gaps := by
  simp [rename, gaps]

@[simp] theorem commaCounts_rename (L : Layout) : (L.rename p).commaCounts = L.commaCounts := by
  rw [commaCounts, commaCounts, gaps_rename]

/-- The words of a renamed line are separated by the same gaps. -/
theorem wellSpaced_rename {ps : List (List Char × List Char)} (h : WellSpaced ps) :
    WellSpaced (ps.map fun part => (renameWord p part.1, part.2)) := by
  induction ps with
  | nil => trivial
  | cons part ps ih =>
    obtain ⟨hw, hg, hne, hps⟩ := h
    exact ⟨isWord_renameWord p hw, hg, fun hmap => hne (by simpa using hmap), ih hps⟩

/-- **The layout of a renamed line** has the same gaps, and the words renamed. -/
theorem of_rename {L : Layout} {line : List Char} (h : L.Of line) :
    (L.rename p).Of (renameLine p line) := by
  obtain rfl := of_iff_eq_ofLine.1 h
  exact ⟨rfl, h.lead_gap, wellSpaced_rename p h.wellSpaced⟩

end Layout

@[simp] theorem words_renameLine (line : List Char) :
    words (renameLine p line) = (words line).map (renameWord p) := by
  have hof := Layout.of_ofLine line
  rw [words_eq_of_layout (Layout.of_rename p hof), words_eq_of_layout hof, Layout.words_rename]

example : renameLine (fun _ => .c) "SETA,,\tSETAB seta SETB, ".toList =
    "SETC,,\tSETAB seta SETC, ".toList := by
  decide +kernel

/-! ## Judging a renamed line -/

/-- A renamed line is blank exactly if the line is. -/
theorem isBlankLine_renameLine (line : List Char) :
    isBlankLine (renameLine p line) = isBlankLine line := by
  have hof := Layout.of_ofLine line
  rw [Bool.eq_iff_iff, Layout.isBlankLine_iff_of_layout hof,
    Layout.isBlankLine_iff_of_layout (Layout.of_rename p hof)]
  simp

/-- Renaming moves no comma, so the commas are judged alike. -/
theorem checkCommas_renameLine (line : List Char) :
    checkCommas (renameLine p line) = checkCommas line := by
  have hof := Layout.of_ofLine line
  rw [Layout.checkCommas_of_commaCounts hof,
    Layout.checkCommas_of_commaCounts (Layout.of_rename p hof)]
  simp

/-- The keyword stays, because no keyword is the name of a register. -/
theorem keyword?_map_renameWord (ws : List (List Char)) :
    keyword? (ws.map (renameWord p)) = keyword? ws := by
  cases ws with
  | nil => rfl
  | cons w ws => simp [keyword?]

@[simp] theorem checkRegister_renameWord (w : List Char) :
    checkRegister (renameWord p w) = checkRegister w := by
  simp [checkRegister]

/-- Names are exchanged for names, so the operands of a command on registers are judged alike. -/
theorem checkRegisters_map_renameWord (keyword : Keyword) (count : Nat) (ws : List (List Char)) :
    checkRegisters keyword count (ws.map (renameWord p)) = checkRegisters keyword count ws := by
  induction count generalizing ws with
  | zero =>
    cases ws with
    | nil => rfl
    | cons w ws => rfl
  | succ count ih =>
    cases ws with
    | nil => rfl
    | cons w ws =>
      rw [List.map_cons, checkRegisters, checkRegisters, checkRegister_renameWord, ih ws]

/-- No numeral is the name of a register, so the numbers are judged alike. -/
theorem checkMembers_map_renameWord (ws : List (List Char)) :
    checkMembers (ws.map (renameWord p)) = checkMembers ws := by
  fun_induction checkMembers ws with
  | case1 => rfl
  | case2 w => simp [checkMembers, checkTerminator]
  | case3 w ws hne ih =>
    obtain ⟨v, vs, rfl⟩ := List.exists_cons_of_ne_nil hne
    have hmember : checkMember (renameWord p w) = checkMember w := by simp [checkMember]
    rw [List.map_cons, List.map_cons, checkMembers.eq_3 _ _ (by simp), hmember, ← List.map_cons,
      ih]

/-- The operands of every keyword are judged alike. -/
theorem checkOperands_map_renameWord (keyword : Keyword) (ws : List (List Char)) :
    checkOperands keyword (ws.map (renameWord p)) = checkOperands keyword ws := by
  cases keyword with
  | read =>
    cases ws with
    | nil => rfl
    | cons w ws =>
      rw [List.map_cons, checkOperands, checkOperands, checkRegister_renameWord,
        checkMembers_map_renameWord]
  | print | combine | stop => exact checkRegisters_map_renameWord p _ _ ws

/-- **A renamed line gets the verdict of the line**, and the same reason if it is rejected. -/
theorem Verdict.ofLine_renameLine (line : List Char) :
    Verdict.ofLine (renameLine p line) = Verdict.ofLine line := by
  rw [Verdict.ofLine, Verdict.ofLine, isBlankLine_renameLine, checkCommas_renameLine,
    words_renameLine, keyword?_map_renameWord, ← List.map_tail]
  simp only [checkOperands_map_renameWord]

/-! ## The command of a renamed line -/

namespace Command

/-- The command with its registers renamed. -/
def rename : Command → Command
  | .read target members => .read (p target) members
  | .print register => .print (p register)
  | .combine op lhs rhs dest => .combine op (p lhs) (p rhs) (p dest)
  | .stop => .stop

@[simp] theorem keyword_rename (c : Command) : (c.rename p).keyword = c.keyword := by
  cases c <;> rfl

/-- The renamed words spell the operands of the renamed command. -/
theorem OperandWords.rename {c : Command} {ws : List (List Char)} (h : c.OperandWords ws) :
    (c.rename p).OperandWords (ws.map (renameWord p)) := by
  cases c with
  | read target members =>
    obtain ⟨numbers, last, rfl, hnumbers, hlast⟩ := h
    have hstays : numbers.map (renameWord p) = numbers := by
      induction hnumbers with
      | nil => rfl
      | cons hm _ ih => rw [List.map_cons, ih, renameWord_of_denotes p hm.1]
    refine ⟨numbers, last, ?_, hnumbers, hlast⟩
    simp [hstays, renameWord_of_denotes p hlast]
  | print r =>
    obtain rfl := h
    simp [Command.rename, OperandWords]
  | combine op lhs rhs dest =>
    obtain rfl := h
    simp [Command.rename, OperandWords]
  | stop =>
    obtain rfl := h
    rfl

/-- **A renamed line asks for the renamed command**, or is rejected or skipped as the line is. -/
theorem ofLine_renameLine (line : List Char) :
    Command.ofLine (renameLine p line) = (Command.ofLine line).map (Option.map (rename p)) := by
  have hverdict := Verdict.ofLine_renameLine p line
  rcases Command.ofLine_cases line with ⟨e, hv, hline⟩ | ⟨hv, hline⟩ | ⟨c, hv, -, hline⟩
  · rw [hline, ofLine_of_error (hverdict.trans hv)]
    rfl
  · rw [hline, ofLine_of_skip (hverdict.trans hv)]
    rfl
  · obtain ⟨hblank, hcommas, ws, hws, hc⟩ := ofLine_eq_some_iff.1 hline
    rw [hline]
    refine ofLine_eq_some_iff.2 ⟨?_, ?_, ws.map (renameWord p), ?_, hc.rename p⟩
    · rw [isBlankLine_renameLine, hblank]
    · rw [checkCommas_renameLine, hcommas]
    · rw [words_renameLine, hws, List.map_cons, renameWord_text, keyword_rename]

end Command

end SetCalculator
