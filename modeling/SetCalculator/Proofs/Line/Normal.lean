import SetCalculator.Proofs.Line.Grammar

/-!
# What the normal form keeps

Behind its leading blanks a line begins with text, and either nothing in it is blank from there on,
or some blank is the first to follow (`line_cases`). In the first case the normal form is the text;
in the second it is the text, that one blank, and the rest without its blanks
(`BlankAfterText.normalize_eq`). The shape of the normal form and its stability are read off these
two equations.

The normal form may drop the only separators between two words, so it does not keep the words of
every line: `a b c` has three, and its normal form `a bc` has two
(`words_normalize_of_missing_comma`). In a line that is spelled by the grammar, the blank behind the
keyword is the one that is kept, and every later gap between two words holds a comma, which is not
blank. Hence the normal form spells the same operands (`Spells.normalize`), and a line that reads as
a command may be normalized before it is read (`Command.ofLine_normalize`).
-/

namespace SetCalculator

open Text

/-! ## The first blank after the text -/

/-- Behind its leading blanks the line begins with the text `before`, in which nothing is blank, and
the first blank after that is `b`. -/
structure BlankAfterText (line before : List Char) (b : Char) (rest : List Char) : Prop where
  line_eq : ∃ lead, IsBlankRun lead ∧ line = lead ++ (before ++ b :: rest)
  before_ne_nil : before ≠ []
  before_not_blank : ∀ c ∈ before, isBlank c = false
  blank : isBlank b = true

/-- A word with a blank behind it, if it is the first of the line. -/
theorem BlankAfterText.of_word {lead w rest : List Char} {b : Char} (hlead : IsBlankRun lead)
    (hw : IsWord w) (hb : isBlank b = true) : BlankAfterText (lead ++ (w ++ b :: rest)) w b rest :=
  ⟨⟨lead, hlead, rfl⟩, hw.1, not_isBlank_of_isWord hw, hb⟩

/-- A line either has no blank after its text, or a first one. -/
theorem line_cases (line : List Char) :
    (∃ lead text, line = lead ++ text ∧ IsBlankRun lead ∧ ∀ c ∈ text, isBlank c = false) ∨
      ∃ before b rest, BlankAfterText line before b rest := by
  have hlead := isBlankRun_takeWhile line
  have hline := (List.takeWhile_append_dropWhile (p := isBlank) (l := line)).symm
  generalize hbody : line.dropWhile isBlank = body at hline
  have hbefore : ∀ c ∈ body.takeWhile (!isBlank ·), isBlank c = false := by
    intro c hc
    simpa using List.all_eq_true.1 List.all_takeWhile c hc
  have hsplit := (List.takeWhile_append_dropWhile (p := (!isBlank ·)) (l := body)).symm
  cases hrest : body.dropWhile (!isBlank ·) with
  | nil =>
    rw [hrest, List.append_nil] at hsplit
    rw [hsplit] at hline
    exact .inl ⟨_, _, hline, hlead, hbefore⟩
  | cons b rest =>
    have hb : isBlank b = true := by
      have := List.head?_dropWhile_not (!isBlank ·) body
      simpa [hrest] using this
    have hne : body.takeWhile (!isBlank ·) ≠ [] := by
      intro hnil
      -- otherwise the leading blanks would go on
      have := List.head?_dropWhile_not isBlank line
      rw [hbody, hsplit, hnil, hrest] at this
      simp [hb] at this
    rw [hrest] at hsplit
    rw [hsplit] at hline
    exact .inr ⟨_, b, rest, ⟨_, hlead, hline⟩, hne, hbefore, hb⟩

/-! ## The shape of the normal form -/

/-- Without a blank after the text, only the leading blanks go. -/
theorem normalize_append_of_not_blank {lead text : List Char} (hlead : IsBlankRun lead)
    (htext : ∀ c ∈ text, isBlank c = false) : normalize (lead ++ text) = text := by
  rw [normalize, normalizeFrom_append_of_blank hlead rfl]
  by_cases hnil : text = []
  · rw [hnil, normalizeFrom_nil]
  · rw [← List.append_nil text, normalizeFrom_false_append hnil htext, normalizeFrom_nil]

/-- **The first blank after the text stays**, behind the same text, and no other one. -/
theorem BlankAfterText.normalize_eq {line before rest : List Char} {b : Char}
    (h : BlankAfterText line before b rest) :
    normalize line = before ++ b :: rest.filter (!isBlank ·) := by
  obtain ⟨⟨lead, hlead, rfl⟩, hne, hbefore, hb⟩ := h
  rw [normalize, normalizeFrom_append_of_blank hlead rfl, normalizeFrom_false_append hne hbefore,
    normalizeFrom_true_false_cons hb]

/-- Where a blank stands in the normal form, the text before it and the rest after it are those of
the line. -/
theorem normalize_eq_append_blank_iff {line before after : List Char} {b : Char} :
    isBlank b = true ∧ normalize line = before ++ b :: after ↔
      ∃ rest, BlankAfterText line before b rest ∧ after = rest.filter (!isBlank ·) := by
  refine ⟨fun ⟨hb, hnormal⟩ => ?_, fun ⟨rest, h, hafter⟩ => ⟨h.blank, hafter ▸ h.normalize_eq⟩⟩
  rcases line_cases line with ⟨lead, text, rfl, hlead, htext⟩ | ⟨before', b', rest, h⟩
  · rw [normalize_append_of_not_blank hlead htext] at hnormal
    have := htext b (by simp [hnormal])
    simp [hb] at this
  · rw [h.normalize_eq] at hnormal
    -- no blank stands on either side of the one that is kept, so `b` is this one
    have hleft : b ∉ before' := fun hmem => by simp [h.before_not_blank b hmem] at hb
    have hright : b ∉ rest.filter (!isBlank ·) := by simp [hb]
    obtain ⟨rfl, rfl, rfl⟩ := (List.append_cons_inj_of_notMem hleft hright).1 hnormal
    exact ⟨rest, h, rfl⟩

/-- A text without blanks has none to count. -/
theorem countP_isBlank_of_not_blank {text : List Char} (h : ∀ c ∈ text, isBlank c = false) :
    text.countP isBlank = 0 :=
  List.countP_eq_zero.2 fun c hc => by simp [h c hc]

/-- At most one blank is left. -/
theorem countP_isBlank_normalize (line : List Char) : (normalize line).countP isBlank ≤ 1 := by
  rcases line_cases line with ⟨lead, text, rfl, hlead, htext⟩ | ⟨before, b, rest, h⟩
  · rw [normalize_append_of_not_blank hlead htext, countP_isBlank_of_not_blank htext]
    exact Nat.zero_le 1
  · have hrest : ∀ c ∈ rest.filter (!isBlank ·), isBlank c = false := by simp
    have hone : (normalize line).countP isBlank = 0 + (0 + 1) := by
      rw [h.normalize_eq, List.countP_append, countP_isBlank_of_not_blank h.before_not_blank,
        List.countP_cons_of_pos h.blank, countP_isBlank_of_not_blank hrest]
    omega

/-- What is not blank is kept, in its order. -/
theorem filter_normalizeFrom (textSeen blankKept : Bool) (line : List Char) :
    (normalizeFrom textSeen blankKept line).filter (!isBlank ·) = line.filter (!isBlank ·) := by
  fun_induction normalizeFrom textSeen blankKept line with
  | case1 => rfl
  | case2 _ _ c cs hc _ ih => simpa [hc] using ih
  | case3 _ _ c cs hc _ ih => simpa [hc] using ih
  | case4 _ _ c cs hc ih => simpa [hc] using ih

/-- **A normal form is its own normal form.** -/
theorem normalize_normalize (line : List Char) : normalize (normalize line) = normalize line := by
  rcases line_cases line with ⟨lead, text, rfl, hlead, htext⟩ | ⟨before, b, rest, h⟩
  · rw [normalize_append_of_not_blank hlead htext]
    exact normalize_append_of_not_blank isBlankRun_nil htext
  · have hagain : BlankAfterText (before ++ b :: rest.filter (!isBlank ·)) before b
        (rest.filter (!isBlank ·)) :=
      ⟨⟨[], isBlankRun_nil, rfl⟩, h.before_ne_nil, h.before_not_blank, h.blank⟩
    rw [h.normalize_eq, hagain.normalize_eq, List.filter_filter]
    simp

/-! ## Normal forms of spelled lines -/

/-- Further operands stay further operands if all blanks are dropped. -/
theorem FurtherOperands.filter_not_blank {ws : List (List Char)} {rest : List Char}
    (h : FurtherOperands ws rest) (hws : ∀ w ∈ ws, IsWord w) :
    FurtherOperands ws (rest.filter (!isBlank ·)) := by
  induction h with
  | done htrail =>
    rw [filter_not_isBlank_blanks htrail]
    exact .done isBlankRun_nil
  | @next before after w rest ws hbefore hafter _ ih =>
    obtain ⟨hw, hws⟩ := List.forall_mem_cons.1 hws
    rw [List.filter_append, filter_not_isBlank_blanks hbefore,
      List.filter_cons_of_pos (by simp [isBlank_comma]), List.filter_append,
      filter_not_isBlank_blanks hafter, List.filter_append, filter_not_isBlank_word hw]
    exact .next isBlankRun_nil isBlankRun_nil (ih hws)

/-- **The normal form of a spelled line spells the same.** -/
theorem Spells.normalize {keyword line : List Char} {ws : List (List Char)}
    (h : Spells keyword ws line) (hkeyword : IsWord keyword) (hws : ∀ w ∈ ws, IsWord w) :
    Spells keyword ws (normalize line) := by
  cases h with
  | @alone lead trail hlead htrail =>
    cases trail with
    | nil =>
      rw [List.append_nil, normalize_append_of_not_blank hlead (not_isBlank_of_isWord hkeyword)]
      have hspelled : Spells keyword [] ([] ++ (keyword ++ [])) :=
        .alone isBlankRun_nil isBlankRun_nil
      rwa [List.nil_append, List.append_nil] at hspelled
    | cons b trail =>
      obtain ⟨hb, htrail⟩ := List.forall_mem_cons.1 htrail
      rw [(BlankAfterText.of_word hlead hkeyword hb).normalize_eq, filter_not_isBlank_blanks htrail]
      exact .alone isBlankRun_nil (isBlankRun_singleton hb)
  -- The first blank of the gap is the one that is kept.
  | @applied lead gap w rest ws hlead hgap hne hrest =>
    obtain ⟨b, gap, rfl⟩ := List.exists_cons_of_ne_nil hne
    obtain ⟨hb, hgap⟩ := List.forall_mem_cons.1 hgap
    obtain ⟨hw, hws⟩ := List.forall_mem_cons.1 hws
    rw [List.cons_append, (BlankAfterText.of_word hlead hkeyword hb).normalize_eq,
      List.filter_append, filter_not_isBlank_blanks hgap, List.nil_append, List.filter_append,
      filter_not_isBlank_word hw]
    exact .applied isBlankRun_nil (isBlankRun_singleton hb) (List.cons_ne_nil b [])
      (hrest.filter_not_blank hws)

/-- **A line that reads as a command may be normalized first**: it reads as the same command, and
has the same words. -/
theorem Command.ofLine_normalize {line : List Char} {c : Command}
    (h : Command.ofLine line = .ok (some c)) :
    Command.ofLine (normalize line) = .ok (some c) ∧ words (normalize line) = words line := by
  obtain ⟨ws, hc, hspells⟩ := Command.ofLine_eq_some_iff_written.1 h
  have hnormal := hspells.normalize (isWord_keyword _) hc.isWord
  refine ⟨Command.ofLine_eq_some_iff_written.2 ⟨ws, hc, hnormal⟩, ?_⟩
  obtain ⟨-, hwords⟩ := (spells_iff (isWord_keyword _) hc.isWord).1 hspells
  obtain ⟨-, hwords'⟩ := (spells_iff (isWord_keyword _) hc.isWord).1 hnormal
  rw [hwords, hwords']

/-! ## Operands that run together -/

/-- One blank is a gap. -/
theorem isGap_singleton {b : Char} (hb : isBlank b = true) : IsGap [b] :=
  (isBlankRun_iff.1 (isBlankRun_singleton hb)).1

/-- A word directly behind a word makes one word with it. -/
theorem isWord_append {v w : List Char} (hv : IsWord v) (hw : IsWord w) : IsWord (v ++ w) := by
  refine ⟨List.append_ne_nil_of_left_ne_nil hv.1 w, fun c hc => ?_⟩
  rcases List.mem_append.1 hc with hc | hc
  · exact hv.2 c hc
  · exact hw.2 c hc

/-- A line that is not blank is refused for its commas, whatever else is wrong with it. -/
theorem Command.ofLine_of_checkCommas_error {line : List Char} {e : Rejection}
    (hline : words line ≠ []) (h : checkCommas line = .error e) :
    Command.ofLine line = .error e := by
  have hblank : isBlankLine line = false :=
    Bool.eq_false_iff.2 fun hblank => hline (words_of_isBlankRun (isBlankLine_iff.1 hblank))
  apply Command.ofLine_of_error
  rw [Verdict.ofLine, hblank, h]
  rfl

section MissingComma

variable {k v w : List Char} {b b' : Char} (hk : IsWord k) (hv : IsWord v) (hw : IsWord w)
  (hb : isBlank b = true) (hb' : isBlank b' = true)

include hk hv hw hb hb'

/-- A keyword and two operands that no comma parts are the words of a layout with blank gaps. -/
theorem Layout.of_missing_comma :
    Layout.Of ⟨[], [(k, [b]), (v, [b']), (w, [])]⟩ (k ++ b :: (v ++ b' :: w)) :=
  ⟨by simp [text], by simp [IsGap], hk, isGap_singleton hb, by simp, hv, isGap_singleton hb',
    by simp, hw, by simp [IsGap], by simp, trivial⟩

/-- The words of the line are the keyword and the two operands. -/
theorem words_of_missing_comma : words (k ++ b :: (v ++ b' :: w)) = [k, v, w] :=
  words_eq_of_layout (Layout.of_missing_comma hk hv hw hb hb')

/-- A line with two operands that no comma parts is refused for the missing comma. -/
theorem Command.ofLine_of_missing_comma :
    Command.ofLine (k ++ b :: (v ++ b' :: w)) = .error .missingComma := by
  have hwords := words_of_missing_comma hk hv hw hb hb'
  have hcomma : ',' ∉ [b] := (isBlankRun_iff.1 (isBlankRun_singleton hb)).2
  have hcomma' : ',' ∉ [b'] := (isBlankRun_iff.1 (isBlankRun_singleton hb')).2
  have hcount : [b'].count ',' = 0 := List.count_eq_zero.2 hcomma'
  apply Command.ofLine_of_checkCommas_error (by simp [hwords])
  rw [checkCommas_of_layout (Layout.of_missing_comma hk hv hw hb hb')]
  simp [Layout.gaps, Layout.operandGaps, Layout.innerGaps, hcomma, hcomma', hcount]

/-- **The normal form runs the operands together.** -/
theorem words_normalize_of_missing_comma :
    words (normalize (k ++ b :: (v ++ b' :: w))) = [k, v ++ w] := by
  have hkept : BlankAfterText (k ++ b :: (v ++ b' :: w)) k b (v ++ b' :: w) :=
    .of_word isBlankRun_nil hk hb
  have hof : Layout.Of ⟨[], [(k, [b]), (v ++ w, [])]⟩ (k ++ b :: (v ++ w)) :=
    ⟨by simp [Layout.text], by simp [IsGap], hk, isGap_singleton hb, by simp, isWord_append hv hw,
      by simp [IsGap], by simp, trivial⟩
  rw [hkept.normalize_eq, List.filter_append, filter_not_isBlank_word hv,
    List.filter_cons_of_neg (by simp [hb']), filter_not_isBlank_word hw]
  exact words_eq_of_layout hof

end MissingComma

/-! ## The normal form as a canonical form -/

/-- **The normal form, for every line.** It holds at most one blank. Where one stands in it, this is
the first blank after the text with which the line begins, and what stands before it is that text;
whatever of the line is not blank is kept in its order, and to normalize once more changes nothing.
A line that reads as a command reads as the same command in its normal form, with the same words. A
line that is refused may lose a word: operands that no comma parts run together. -/
theorem normal_form_is_canonical (line : List Char) :
    (normalize line).countP isBlank ≤ 1 ∧
    (∀ before b after, isBlank b = true ∧ normalize line = before ++ b :: after ↔
      ∃ rest, BlankAfterText line before b rest ∧ after = rest.filter (!isBlank ·)) ∧
    (normalize line).filter (!isBlank ·) = line.filter (!isBlank ·) ∧
    normalize (normalize line) = normalize line ∧
    (∀ c, Command.ofLine line = .ok (some c) →
      Command.ofLine (normalize line) = .ok (some c) ∧ words (normalize line) = words line) ∧
    (∀ k b v b' w, IsWord k → IsWord v → IsWord w → isBlank b = true → isBlank b' = true →
      line = k ++ b :: (v ++ b' :: w) →
      Command.ofLine line = .error .missingComma ∧ words line = [k, v, w] ∧
        words (normalize line) = [k, v ++ w]) := by
  refine ⟨countP_isBlank_normalize line, fun _ _ _ => normalize_eq_append_blank_iff,
    filter_normalizeFrom false false line, normalize_normalize line,
    fun _ => Command.ofLine_normalize, ?_⟩
  rintro k b v b' w hk hv hw hb hb' rfl
  exact ⟨Command.ofLine_of_missing_comma hk hv hw hb hb', words_of_missing_comma hk hv hw hb hb',
    words_normalize_of_missing_comma hk hv hw hb hb'⟩

/-- A command with blanks around its operands, and a line without a comma between them. -/
theorem normal_form_is_canonical_of_spaced_operands :
    let good := " \tunion_set SETA ,\tSETB, SETC ".toList
    let bad := "union_set SETA\tSETB".toList
    normalize good = "union_set SETA,SETB,SETC".toList ∧
    Command.ofLine (normalize good) = .ok (some (.combine .union .a .b .c)) ∧
    words (normalize good) = words good ∧
    (∃ rest, BlankAfterText good "union_set".toList ' ' rest ∧
      "SETA,SETB,SETC".toList = rest.filter (!isBlank ·)) ∧
    Command.ofLine bad = .error .missingComma ∧
    words bad = ["union_set".toList, "SETA".toList, "SETB".toList] ∧
    words (normalize bad) = ["union_set".toList, "SETASETB".toList] := by
  intro good bad
  have hgood : Command.ofLine good = .ok (some (.combine .union .a .b .c)) := by decide +kernel
  have hnormal : normalize good = "union_set SETA,SETB,SETC".toList := by decide +kernel
  obtain ⟨-, hkept, -, -, hread, -⟩ := normal_form_is_canonical good
  obtain ⟨-, -, -, -, -, hmerged⟩ := normal_form_is_canonical bad
  obtain ⟨hsame, hwords⟩ := hread _ hgood
  exact ⟨hnormal, hsame, hwords, (hkept _ _ _).1 ⟨by decide +kernel, hnormal.trans (by rfl)⟩,
    hmerged "union_set".toList ' ' "SETA".toList '\t' "SETB".toList
      (isWord_keyword (.combine .union)) (isWord_name .a) (isWord_name .b) (by decide +kernel)
      (by decide +kernel) rfl⟩

end SetCalculator
