import SetCalculator.Proofs.Line.Agreement
import SetCalculator.Proofs.Line.Commas

/-!
# The grammar of commands

`Command.Written c line` says how a command is written, without regard to how lines are read:

* blanks, the keyword, and blanks again;
* if the command takes operands, at least one blank after the keyword, the first operand, each
  further operand after one comma, and blanks wherever they do not split a word (`Spells`);
* the operands themselves are those of `Command.OperandWords`.

`Command.ofLine` decides by partial checks: a scan over a squeezed copy of the line, a count of all
its commas, a check of the operands and a second pass that builds them. `spells_iff` ties the first
two to the grammar, by way of the gaps of the line: a missing comma in one gap cannot be made up by
a superfluous one elsewhere, since no gap may hold two. `ofLine_reads_exactly_the_written` says that
the checks together accept exactly what is written by the grammar, with the right command.
-/

namespace SetCalculator

open Text

/-- A run of blanks; it may be empty. -/
def IsBlankRun (g : List Char) : Prop := ∀ c ∈ g, isBlank c = true

/-- No blanks at all are a run of blanks. -/
theorem isBlankRun_nil : IsBlankRun [] := List.forall_mem_nil _

/-- One blank is a run of blanks. -/
theorem isBlankRun_singleton {c : Char} (h : isBlank c = true) : IsBlankRun [c] :=
  List.forall_mem_singleton.2 h

/-- The blanks in front of a line are a run of blanks. -/
theorem isBlankRun_takeWhile (line : List Char) : IsBlankRun (line.takeWhile isBlank) := by
  intro c hc
  exact List.all_eq_true.1 List.all_takeWhile c hc

/-- The further operands of a command, each after a comma with blanks around it, and the blanks at
the end of the line. -/
inductive FurtherOperands : List (List Char) → List Char → Prop
  | done {trail : List Char} : IsBlankRun trail → FurtherOperands [] trail
  | next {before after w rest : List Char} {ws : List (List Char)} :
      IsBlankRun before → IsBlankRun after → FurtherOperands ws rest →
      FurtherOperands (w :: ws) (before ++ ',' :: (after ++ (w ++ rest)))

/-- A line that consists of a keyword and the given operands. -/
inductive Spells (keyword : List Char) : List (List Char) → List Char → Prop
  | alone {lead trail : List Char} : IsBlankRun lead → IsBlankRun trail →
      Spells keyword [] (lead ++ (keyword ++ trail))
  | applied {lead gap w rest : List Char} {ws : List (List Char)} :
      IsBlankRun lead → IsBlankRun gap → gap ≠ [] → FurtherOperands ws rest →
      Spells keyword (w :: ws) (lead ++ (keyword ++ (gap ++ (w ++ rest))))

/-- The line is a way to write the command. -/
def Command.Written (c : Command) (line : List Char) : Prop :=
  ∃ ws, c.OperandWords ws ∧ Spells c.keyword.text.toList ws line

/-! ## Gaps with one comma -/

/-- Of the gaps after the operands, each but the last holds exactly one comma, and the last one
none. -/
def SingleCommas (gs : List (List Char)) : Prop :=
  (∀ g ∈ gs.getLast?, ',' ∉ g) ∧ ∀ g ∈ gs.dropLast, g.count ',' = 1

/-- The last gap has no comma. -/
theorem singleCommas_singleton {g : List Char} : SingleCommas [g] ↔ ',' ∉ g := by
  simp [SingleCommas]

/-- Every gap before the last has exactly one comma. -/
theorem singleCommas_cons_cons {g h : List Char} {gs : List (List Char)} :
    SingleCommas (g :: h :: gs) ↔ g.count ',' = 1 ∧ SingleCommas (h :: gs) := by
  simp only [SingleCommas, List.getLast?_cons_cons, List.dropLast_cons_cons, List.forall_mem_cons]
  exact and_left_comm

/-- A run of blanks is a gap without commas. -/
theorem isBlankRun_iff {g : List Char} : IsBlankRun g ↔ IsGap g ∧ ',' ∉ g := by
  refine ⟨fun h => ?_, fun ⟨hg, hcomma⟩ => isBlank_of_comma_notMem hg hcomma⟩
  refine ⟨fun c hc => isSeparator_of_isBlank (h c hc), fun hcomma => ?_⟩
  have := h ',' hcomma
  rw [isBlank_comma] at this
  cases this

/-- A gap holds exactly one comma if it is a comma with blanks around it. -/
theorem isGap_and_count_eq_one_iff {g : List Char} :
    IsGap g ∧ g.count ',' = 1 ↔
      ∃ before after, g = before ++ ',' :: after ∧ IsBlankRun before ∧ IsBlankRun after := by
  refine ⟨fun ⟨hg, hone⟩ => ?_, fun h => ?_⟩
  · obtain ⟨before, after, rfl, hbefore⟩ :=
      exists_blanks_append_comma hg (List.one_le_count_iff.1 (Nat.le_of_eq hone.symm))
    refine ⟨before, after, rfl, hbefore, isBlankRun_iff.2 ⟨fun c hc => hg c (by simp [hc]), ?_⟩⟩
    rw [List.count_append, List.count_cons_self] at hone
    exact List.count_eq_zero.1 (by omega)
  · obtain ⟨before, after, rfl, hbefore, hafter⟩ := h
    obtain ⟨hbefore, hbefore'⟩ := isBlankRun_iff.1 hbefore
    obtain ⟨hafter, hafter'⟩ := isBlankRun_iff.1 hafter
    refine ⟨fun c hc => ?_, ?_⟩
    · simp only [List.mem_append, List.mem_cons] at hc
      rcases hc with hc | rfl | hc
      · exact hbefore c hc
      · decide
      · exact hafter c hc
    · rw [List.count_append, List.count_cons_self, List.count_eq_zero.2 hbefore',
        List.count_eq_zero.2 hafter']

/-! ## Operands and gaps -/

/-- A gap and the parts after it, with single commas in the gaps, are further operands. -/
theorem furtherOperands_of_singleCommas {g : List Char} {ps : List (List Char × List Char)}
    (hg : IsGap g) (hps : Layout.WellSpaced ps) (h : SingleCommas (g :: ps.map Prod.snd)) :
    FurtherOperands (ps.map Prod.fst) (g ++ Layout.partsText ps) := by
  induction ps generalizing g with
  | nil =>
    rw [Layout.partsText_nil, List.append_nil]
    exact .done (isBlankRun_iff.2 ⟨hg, singleCommas_singleton.1 h⟩)
  | cons p ps ih =>
    obtain ⟨w, g'⟩ := p
    obtain ⟨-, hg', -, hps⟩ := hps
    obtain ⟨hone, htail⟩ := singleCommas_cons_cons.1 h
    obtain ⟨before, after, rfl, hbefore, hafter⟩ := isGap_and_count_eq_one_iff.1 ⟨hg, hone⟩
    rw [Layout.partsText_cons, List.append_assoc, List.cons_append]
    exact .next hbefore hafter (ih hg' hps htail)

/-- Further operands are a gap and parts, with single commas in the gaps. -/
theorem FurtherOperands.exists_parts {ws : List (List Char)} {rest : List Char}
    (h : FurtherOperands ws rest) (hws : ∀ w ∈ ws, IsWord w) :
    ∃ g ps, rest = g ++ Layout.partsText ps ∧ ps.map Prod.fst = ws ∧ IsGap g ∧
      (ps ≠ [] → g ≠ []) ∧ Layout.WellSpaced ps ∧ SingleCommas (g :: ps.map Prod.snd) := by
  induction h with
  | @done trail htrail =>
    obtain ⟨hgap, hcomma⟩ := isBlankRun_iff.1 htrail
    exact ⟨trail, [], by simp, rfl, hgap, by simp, trivial, singleCommas_singleton.2 hcomma⟩
  | @next before after w rest ws hbefore hafter _ ih =>
    obtain ⟨g, ps, rfl, hfst, hg, hne, hps, hcommas⟩ := ih fun v hv => hws v (by simp [hv])
    obtain ⟨hgap, hone⟩ := isGap_and_count_eq_one_iff.2 ⟨before, after, rfl, hbefore, hafter⟩
    refine ⟨before ++ ',' :: after, (w, g) :: ps, by simp, by simp [hfst], hgap, by simp,
      ⟨hws w (by simp), hg, hne, hps⟩, singleCommas_cons_cons.2 ⟨hone, hcommas⟩⟩

/-- A spelled line is laid out as the keyword and the operands, with commas where the grammar has
them. -/
theorem Spells.exists_parts {keyword line : List Char} {ws : List (List Char)}
    (h : Spells keyword ws line) (hws : ∀ w ∈ ws, IsWord w) :
    ∃ lead gap ps, line = lead ++ Layout.partsText ((keyword, gap) :: ps) ∧
      ps.map Prod.fst = ws ∧ IsBlankRun lead ∧ IsBlankRun gap ∧ (ps ≠ [] → gap ≠ []) ∧
      Layout.WellSpaced ps ∧ SingleCommas (ps.map Prod.snd) := by
  cases h with
  | @alone lead trail hlead htrail =>
    exact ⟨lead, trail, [], by simp, rfl, hlead, htrail, by simp, trivial, by simp [SingleCommas]⟩
  | @applied lead gap w rest ws hlead hgap hne hrest =>
    obtain ⟨g, ps, rfl, rfl, hg, hne', hps, hcommas⟩ :=
      hrest.exists_parts fun v hv => hws v (by simp [hv])
    exact ⟨lead, gap, (w, g) :: ps, by simp, rfl, hlead, hgap, fun _ => hne,
      ⟨hws w (by simp), hg, hne', hps⟩, hcommas⟩

/-- A line with such a layout is spelled so. -/
theorem spells_of_parts {keyword lead gap : List Char} {ps : List (List Char × List Char)}
    (hlead : IsBlankRun lead) (hgap : IsBlankRun gap) (hne : ps ≠ [] → gap ≠ [])
    (hps : Layout.WellSpaced ps) (hcommas : SingleCommas (ps.map Prod.snd)) :
    Spells keyword (ps.map Prod.fst) (lead ++ Layout.partsText ((keyword, gap) :: ps)) := by
  rw [Layout.partsText_cons]
  cases ps with
  | nil =>
    rw [Layout.partsText_nil, List.append_nil]
    exact .alone hlead hgap
  | cons p ps =>
    obtain ⟨w, g⟩ := p
    obtain ⟨-, hg, -, hps⟩ := hps
    rw [Layout.partsText_cons]
    exact .applied hlead hgap (hne (by simp)) (furtherOperands_of_singleCommas hg hps hcommas)

/-- **The two checks of the commas against the grammar.** A line passes them, and falls apart into a
keyword and operands, exactly if it spells them. -/
theorem spells_iff {keyword line : List Char} {ws : List (List Char)} (hkeyword : IsWord keyword)
    (hws : ∀ w ∈ ws, IsWord w) :
    Spells keyword ws line ↔ checkCommas line = .ok () ∧ words line = keyword :: ws := by
  refine ⟨fun h => ?_, fun ⟨hcommas, hwords⟩ => ?_⟩
  · obtain ⟨lead, gap, ps, rfl, rfl, hlead, hgap, hne, hps, hlast, hinner⟩ := h.exists_parts hws
    obtain ⟨hlead, hlead'⟩ := isBlankRun_iff.1 hlead
    obtain ⟨hgap, hgap'⟩ := isBlankRun_iff.1 hgap
    have hof : Layout.Of ⟨lead, (keyword, gap) :: ps⟩
        (lead ++ Layout.partsText ((keyword, gap) :: ps)) :=
      ⟨rfl, hlead, hkeyword, hgap, hne, hps⟩
    refine ⟨(checkCommas_eq_ok_iff hof).2 ⟨by simp [Layout.words], hlead', ?_, hlast, hinner⟩,
      words_eq_of_layout hof⟩
    simpa [Layout.gaps_getElem?_one_cons] using hgap'
  · have hof := Layout.of_ofLine line
    generalize Layout.ofLine line = L at hof
    obtain ⟨-, hlead', hgap', hlast, hinner⟩ := (checkCommas_eq_ok_iff hof).1 hcommas
    rw [words_eq_of_layout hof, Layout.words] at hwords
    obtain ⟨lead, parts⟩ := L
    obtain ⟨rfl, hlead, hparts⟩ := hof
    cases parts with
    | nil => cases hwords
    | cons p ps =>
      obtain ⟨k, gap⟩ := p
      obtain ⟨rfl, rfl⟩ := List.cons.inj hwords
      obtain ⟨-, hgap, hne, hps⟩ := hparts
      have hblank : IsBlankRun gap :=
        isBlankRun_iff.2 ⟨hgap, hgap' gap (Layout.gaps_getElem?_one_cons ..)⟩
      exact spells_of_parts (isBlankRun_iff.2 ⟨hlead, hlead'⟩) hblank hne hps ⟨hlast, hinner⟩

/-! ## What a command is spelled with -/

/-- A text that is not empty and has no separators is a word. -/
theorem isWord_of_all {w : List Char} (hne : w ≠ []) (h : w.all (!isSeparator ·) = true) :
    IsWord w :=
  ⟨hne, by simpa using h⟩

/-- The keywords are words. -/
theorem isWord_keyword (keyword : Keyword) : IsWord keyword.text.toList := by
  cases keyword with
  | combine op =>
    cases op <;> exact isWord_of_all (by decide +kernel) (by decide +kernel)
  | read | print | stop => exact isWord_of_all (by decide +kernel) (by decide +kernel)

/-- The names of the registers are words. -/
theorem isWord_name (r : Register) : IsWord r.name.toList := by
  cases r <;> exact isWord_of_all (by decide +kernel) (by decide +kernel)

/-- A digit separates nothing. -/
theorem isSeparator_of_isDigit {c : Char} (h : c.isDigit = true) : isSeparator c = false := by
  obtain ⟨hl, hu⟩ := Char.isDigit_iff_toNat.1 h
  have hl : 48 ≤ c.toNat := hl
  have hu : c.toNat ≤ 57 := hu
  have hcomma : c ≠ ',' := by
    rintro rfl
    exact absurd hl (by decide)
  simp only [isSeparator, beq_eq_false_iff_ne.2 hcomma, Bool.false_or, isBlank, inIntervals,
    blankIntervals, List.any_cons, List.any_nil, Bool.or_false, Bool.or_eq_false_iff,
    Bool.and_eq_false_iff, decide_eq_false_iff_not]
  omega

/-- A numeral is a word. -/
theorem isWord_of_denotes {w : List Char} {z : Int} (h : Denotes w z) : IsWord w := by
  have hdigits : ∀ {ds : List Char}, ds ≠ [] → (∀ c ∈ ds, c.isDigit = true) → IsWord ds :=
    fun hne hds => ⟨hne, fun c hc => isSeparator_of_isDigit (hds c hc)⟩
  cases h with
  | unsigned hne hds => exact hdigits hne hds
  | plus hne hds => exact Layout.isWord_cons (by decide) (hdigits hne hds)
  | minus hne hds => exact Layout.isWord_cons (by decide) (hdigits hne hds)

/-- The operands of a command are words. -/
theorem Command.OperandWords.isWord {c : Command} {ws : List (List Char)} (h : c.OperandWords ws) :
    ∀ w ∈ ws, IsWord w := by
  cases c with
  | read target members =>
    obtain ⟨numbers, last, rfl, hnumbers, hlast⟩ := h
    have hmembers : ∀ w ∈ numbers, IsWord w := by
      induction hnumbers with
      | nil => simp
      | cons hm _ ih =>
        intro w hw
        rcases List.mem_cons.1 hw with rfl | hw
        · exact isWord_of_denotes hm.1
        · exact ih w hw
    intro w hw
    simp only [List.mem_cons, List.mem_append, List.not_mem_nil, or_false] at hw
    rcases hw with rfl | hw | rfl
    · exact isWord_name target
    · exact hmembers w hw
    · exact isWord_of_denotes hlast
  | print r =>
    obtain rfl := h
    simpa using isWord_name r
  | combine op lhs rhs dest =>
    obtain rfl := h
    simpa using ⟨isWord_name lhs, isWord_name rhs, isWord_name dest⟩
  | stop =>
    obtain rfl := h
    simp

/-! ## Reading against the grammar -/

/-- A blank line is a run of blanks. -/
theorem isBlankLine_iff {line : List Char} : isBlankLine line = true ↔ IsBlankRun line :=
  List.all_eq_true

/-- A blank line has no words. -/
theorem words_of_isBlankRun {line : List Char} (h : IsBlankRun line) : words line = [] := by
  have hof : Layout.Of ⟨line, []⟩ line :=
    ⟨by simp [Layout.text], (isBlankRun_iff.1 h).1, trivial⟩
  exact words_eq_of_layout hof

/-- **A line reads as a command exactly if it is a way to write it.** -/
theorem Command.ofLine_eq_some_iff_written {line : List Char} {c : Command} :
    Command.ofLine line = .ok (some c) ↔ c.Written line := by
  rw [Command.ofLine_eq_some_iff]
  refine ⟨fun h => ?_, fun h => ?_⟩
  · obtain ⟨-, hcommas, ws, hws, hc⟩ := h
    exact ⟨ws, hc, (spells_iff (isWord_keyword _) hc.isWord).2 ⟨hcommas, hws⟩⟩
  · obtain ⟨ws, hc, hspells⟩ := h
    obtain ⟨hcommas, hws⟩ := (spells_iff (isWord_keyword _) hc.isWord).1 hspells
    refine ⟨Bool.eq_false_iff.2 fun hblank => ?_, hcommas, ws, hws, hc⟩
    rw [words_of_isBlankRun (isBlankLine_iff.1 hblank)] at hws
    cases hws

/-- **The grammar of commands, for every line.** A line reads as a command exactly if it is a way to
write this command, and as no command at all exactly if it holds blanks alone. -/
theorem ofLine_reads_exactly_the_written (line : List Char) :
    (∀ c, Command.ofLine line = .ok (some c) ↔ c.Written line) ∧
      (Command.ofLine line = .ok none ↔ ∀ x ∈ line, isBlank x = true) :=
  ⟨fun _ => Command.ofLine_eq_some_iff_written,
    Command.ofLine_eq_none_iff.trans (Verdict.ofLine_eq_skip_iff.trans isBlankLine_iff)⟩

end SetCalculator
