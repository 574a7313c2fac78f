import SetCalculator.Proofs.Line.Operands

/-!
# The first violation among the operands

An operand may be wrong in itself, because it names no register, and the operands may be too few or
too many. Words are checked from left to right, and a missing or superfluous word is a violation at
its place, so the two kinds mix: of the names that a command takes, a wrong one comes before a wrong
count, wherever it stands (`checkRegisters_eq`), except that a command that prints or reads cannot
do without its first word.

This holds from whatever place of a line the words are read. What stands behind the last register
name is never looked at: a word there is one too many, whatever it is (`checkOperands_congr`).
-/

namespace SetCalculator

/-- Whether a word is exactly the name of a register. -/
def NamesRegister (w : List Char) : Prop := ∃ r : Register, w = r.name.toList

instance : DecidablePred NamesRegister := fun w =>
  decidable_of_iff (∃ r ∈ Register.all, w = r.name.toList)
    ⟨fun ⟨r, _, h⟩ => ⟨r, h⟩, fun ⟨r, h⟩ => ⟨r, Register.mem_all r, h⟩⟩

/-! ## Register names -/

/-- The name of a register passes as a register. -/
theorem checkRegister_of_names {w : List Char} (h : NamesRegister w) : checkRegister w = .ok () :=
  checkRegister_eq_ok_iff.2 h

/-- A word that names no register is rejected as no name of a register. -/
theorem checkRegister_of_not_names {w : List Char} (h : ¬ NamesRegister w) :
    checkRegister w = .error .invalidRegister := by
  have hne : checkRegister w ≠ .ok () := fun hok => h (checkRegister_eq_ok_iff.1 hok)
  unfold checkRegister at hne ⊢
  split
  · rename_i hsome
    exact absurd (if_pos hsome) hne
  · rfl

/-- **A list of register names**: a word that is none is reported before a wrong count, and only the
words that could be names are looked at. -/
theorem checkRegisters_eq (keyword : Keyword) (count : Nat) (ws : List (List Char)) :
    checkRegisters keyword count ws =
      if ∃ w ∈ ws.take count, ¬ NamesRegister w then .error .invalidRegister
      else if ws.length ≠ count then .error (.wrongOperandCount keyword)
      else .ok () := by
  induction count generalizing ws with
  | zero =>
    cases ws with
    | nil => simp [checkRegisters]
    | cons w ws => simp [checkRegisters]
  | succ count ih =>
    cases ws with
    | nil => simp [checkRegisters]
    | cons w ws =>
      by_cases hw : NamesRegister w
      · rw [checkRegisters, checkRegister_of_names hw]
        show checkRegisters keyword count ws = _
        rw [ih ws]
        simp [hw]
      · rw [checkRegisters, checkRegister_of_not_names hw]
        simp [hw, bind, Except.bind]

/-! ## Numbers -/

/-- The numbers are never too few or too many. -/
theorem checkMembers_ne_wrongOperandCount (ws : List (List Char)) (keyword : Keyword) :
    checkMembers ws ≠ .error (.wrongOperandCount keyword) := by
  fun_induction checkMembers ws with
  | case1 => simp
  | case2 w =>
    unfold checkTerminator
    split
    · simp
    · split
      · simp
      split <;> simp
  | case3 w ws _ ih =>
    unfold checkMember
    split
    · simp [bind, Except.bind]
    · split
      · exact ih
      · simp [bind, Except.bind]

/-! ## Operands -/

/-- The operands of a command that takes register names alone. -/
theorem checkOperands_of_ne_read (keyword : Keyword) (h : keyword ≠ .read)
    (ws : List (List Char)) :
    checkOperands keyword ws =
      if ∃ w ∈ ws.take keyword.registerCount, ¬ NamesRegister w then .error .invalidRegister
      else if ws.length ≠ keyword.registerCount then .error (.wrongOperandCount keyword)
      else .ok () := by
  rw [checkOperands_eq_checkRegisters keyword h, checkRegisters_eq]

/-- A command that takes register names alone sees of the words no more than those that could be
names, and whether there is a further one. -/
theorem checkOperands_congr (keyword : Keyword) (h : keyword ≠ .read) {ws ws' : List (List Char)}
    (hnames : ws.take keyword.registerCount = ws'.take keyword.registerCount)
    (hfurther : keyword.registerCount < ws.length ↔ keyword.registerCount < ws'.length) :
    checkOperands keyword ws = checkOperands keyword ws' := by
  have hlength : ws.length = keyword.registerCount ↔ ws'.length = keyword.registerCount := by
    have := congrArg List.length hnames
    rw [List.length_take, List.length_take] at this
    omega
  simp only [checkOperands_of_ne_read keyword h, hnames, ne_eq, hlength]

/-- The operands of a printing command: none is too few, the first is judged before it is known
whether there are more. -/
theorem checkOperands_print (ws : List (List Char)) :
    checkOperands .print ws =
      if ws = [] then .error (.wrongOperandCount .print)
      else if ∃ w ∈ ws.head?, ¬ NamesRegister w then .error .invalidRegister
      else if 1 < ws.length then .error (.wrongOperandCount .print)
      else .ok () := by
  rw [checkOperands_of_ne_read .print nofun]
  cases ws with
  | nil => simp [Keyword.registerCount]
  | cons w ws =>
    cases ws with
    | nil => simp [Keyword.registerCount]
    | cons v ws => simp [Keyword.registerCount]

/-- The operands of a reading command: none is too few, the first names the register, and the rest
are numbers. -/
theorem checkOperands_read (ws : List (List Char)) :
    checkOperands .read ws =
      if ws = [] then .error (.wrongOperandCount .read)
      else if ∃ w ∈ ws.head?, ¬ NamesRegister w then .error .invalidRegister
      else checkMembers ws.tail := by
  cases ws with
  | nil => rfl
  | cons w ws =>
    by_cases hw : NamesRegister w
    · rw [checkOperands, checkRegister_of_names hw]
      simp [hw, bind, Except.bind]
    · rw [checkOperands, checkRegister_of_not_names hw]
      simp [hw, bind, Except.bind]

/-- A wrong count is always reported for the keyword at hand. -/
theorem keyword_of_wrongOperandCount {keyword keyword' : Keyword} {ws : List (List Char)}
    (h : checkOperands keyword ws = .error (.wrongOperandCount keyword')) :
    keyword' = keyword := by
  by_cases hread : keyword = .read
  · subst hread
    cases ws with
    | nil =>
      cases h
      rfl
    | cons w ws =>
      by_cases hw : NamesRegister w
      · rw [checkOperands, checkRegister_of_names hw] at h
        exact absurd h (checkMembers_ne_wrongOperandCount ws keyword')
      · rw [checkOperands, checkRegister_of_not_names hw] at h
        cases h
  · rw [checkOperands_of_ne_read keyword hread] at h
    split at h
    · cases h
    split at h
    · cases h
      rfl
    · cases h

/-- **The operands, by their first violation.** The words may be read from any place of any line,
whatever commas stand between them. A command that stops takes none. One that prints or reads needs
a first word, and a register named by it, before a further word is one too many or the numbers are
looked at. One that combines reports a word that names no register among its first three, and only
then that there are more or fewer than three. A wrong count is reported for the command's own
keyword, and a word behind the last register name counts by being there alone. -/
theorem operands_by_first_violation (c : Cursor) :
    let ws := c.tokens.map Token.text
    checkOperands .stop ws =
      (if ws = [] then .ok () else .error (.wrongOperandCount .stop)) ∧
    checkOperands .print ws =
      (if ws = [] then .error (.wrongOperandCount .print)
      else if ∃ w ∈ ws.head?, ¬ NamesRegister w then .error .invalidRegister
      else if 1 < ws.length then .error (.wrongOperandCount .print)
      else .ok ()) ∧
    checkOperands .read ws =
      (if ws = [] then .error (.wrongOperandCount .read)
      else if ∃ w ∈ ws.head?, ¬ NamesRegister w then .error .invalidRegister
      else checkMembers ws.tail) ∧
    (∀ op, checkOperands (.combine op) ws =
      if ∃ w ∈ ws.take 3, ¬ NamesRegister w then .error .invalidRegister
      else if ws.length ≠ 3 then .error (.wrongOperandCount (.combine op))
      else .ok ()) ∧
    (∀ keyword keyword', checkOperands keyword ws = .error (.wrongOperandCount keyword') →
      keyword' = keyword) ∧
    ∀ c' : Cursor,
      let ws' := c'.tokens.map Token.text
      (ws.take 3 = ws'.take 3 → (3 < ws.length ↔ 3 < ws'.length) →
        ∀ op, checkOperands (.combine op) ws = checkOperands (.combine op) ws') ∧
      (ws.take 1 = ws'.take 1 → (1 < ws.length ↔ 1 < ws'.length) →
        checkOperands .print ws = checkOperands .print ws') := by
  intro ws
  refine ⟨?_, checkOperands_print ws, checkOperands_read ws, ?_, ?_, ?_⟩
  · rw [checkOperands_of_ne_read .stop nofun]
    simp [Keyword.registerCount]
  · intro op
    exact checkOperands_of_ne_read (.combine op) nofun ws
  · intro keyword keyword' h
    exact keyword_of_wrongOperandCount h
  · intro c' ws'
    refine ⟨?_, ?_⟩
    · intro hnames hfurther op
      exact checkOperands_congr (.combine op) nofun hnames hfurther
    · intro hnames hfurther
      exact checkOperands_congr .print nofun hnames hfurther

/-- The third word names no register, which comes before the fourth being one too many; of the words
behind the last register name, what they are does not matter. -/
theorem operands_by_first_violation_third_of_four :
    let ws := (Cursor.ofLine "SETA, SETB, SETX, 9".toList).tokens.map Token.text
    let ws' := (Cursor.ofLine "SETA SETB SETX,, SETC, SETD".toList).tokens.map Token.text
    checkOperands (.combine .union) ws = .error .invalidRegister ∧
    checkOperands (.combine .union) ws = checkOperands (.combine .union) ws' ∧
    checkOperands .print ws = .error (.wrongOperandCount .print) ∧
    (∀ keyword, checkOperands .print ws = .error (.wrongOperandCount keyword) →
      keyword = .print) ∧
    checkOperands .print ws = checkOperands .print ws' := by
  intro ws ws'
  obtain ⟨-, hprint, -, hcombine, hkeyword, hcongr⟩ :=
    operands_by_first_violation (Cursor.ofLine "SETA, SETB, SETX, 9".toList)
  obtain ⟨hcombines, hprints⟩ := hcongr (Cursor.ofLine "SETA SETB SETX,, SETC, SETD".toList)
  refine ⟨(hcombine .union).trans (by decide +kernel), ?_, hprint.trans (by decide +kernel),
    hkeyword .print, ?_⟩
  · exact hcombines (by decide +kernel) (by decide +kernel) .union
  · exact hprints (by decide +kernel) (by decide +kernel)

end SetCalculator
