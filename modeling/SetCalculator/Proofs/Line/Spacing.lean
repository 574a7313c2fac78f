import SetCalculator.Proofs.Line.Commas
import SetCalculator.Proofs.Line.Grammar

/-!
# Spacing

What a line asks for depends on its words and on how many commas each of its gaps holds; how the
gaps are filled up with blanks, and with which of them, is of no account (`Command.ofLine_congr`).
Blanks at the two ends of a line belong to its first and its last gap, so a line may be trimmed
before it is read (`Command.ofLine_trim`).
-/

namespace SetCalculator

open Text

namespace Layout

/-- The number of commas in each gap. -/
def commaCounts (L : Layout) : List Nat := L.gaps.map (List.count ',')

/-! ## What the comma check looks at -/

/-- The check of the commas, by the number of commas in each gap. -/
theorem checkCommas_of_commaCounts {L : Layout} {line : List Char} (h : L.Of line) :
    checkCommas line =
      if ∃ k ∈ L.commaCounts[0]?, 1 ≤ k then .error .leadingComma
      else if ∃ k ∈ L.commaCounts[1]?, 1 ≤ k then .error .commaAfterKeyword
      else if ∃ k ∈ L.commaCounts.drop 2, 2 ≤ k then .error .consecutiveCommas
      else if ∃ k ∈ (L.commaCounts.drop 2).getLast?, 1 ≤ k then .error .trailingComma
      else if L.words = [] ∨ ∃ k ∈ (L.commaCounts.drop 2).dropLast, k = 0 then
        .error .missingComma
      else .ok () := by
  have hoperands : L.commaCounts.drop 2 = L.operandGaps.map (List.count ',') :=
    List.map_drop.symm
  have hlead : (∃ k ∈ L.commaCounts[0]?, 1 ≤ k) ↔ ',' ∈ L.lead := by
    simp [commaCounts, gaps, List.one_le_count_iff]
  have hfirst : (∃ k ∈ L.commaCounts[1]?, 1 ≤ k) ↔ ∃ g ∈ L.gaps[1]?, ',' ∈ g := by
    simp [commaCounts, List.one_le_count_iff]
  have hmany : (∃ k ∈ L.commaCounts.drop 2, 2 ≤ k) ↔ ∃ g ∈ L.operandGaps, 2 ≤ g.count ',' := by
    simp [hoperands]
  have hlast : (∃ k ∈ (L.commaCounts.drop 2).getLast?, 1 ≤ k) ↔
      ∃ g ∈ L.operandGaps.getLast?, ',' ∈ g := by
    simp [hoperands, List.one_le_count_iff]
  have hinner : (∃ k ∈ (L.commaCounts.drop 2).dropLast, k = 0) ↔
      ∃ g ∈ L.innerGaps, ',' ∉ g := by
    simp [hoperands, innerGaps, List.count_eq_zero, ← List.map_dropLast]
  simp only [checkCommas_of_layout h, hlead, hfirst, hmany, hlast, hinner]

/-- A line is blank if it has neither words nor commas. -/
theorem isBlankLine_iff_of_layout {L : Layout} {line : List Char} (h : L.Of line) :
    isBlankLine line = true ↔ L.words = [] ∧ L.commaCounts.sum = 0 := by
  rw [commaCounts, ← count_comma_of_layout h, List.count_eq_zero, isBlankLine_iff, isBlankRun_iff]
  refine ⟨fun hblank => ⟨?_, hblank.2⟩, fun ⟨hwords, hcomma⟩ => ⟨?_, hcomma⟩⟩
  · rw [← words_eq_of_layout h]
    exact words_of_isBlankRun (isBlankRun_iff.2 hblank)
  · have hparts : L.parts = [] := List.map_eq_nil_iff.1 hwords
    have htext : L.lead = line := by
      rw [← h.text_eq, text, hparts, partsText_nil, List.append_nil]
    rw [← htext]
    exact h.lead_gap

end Layout

/-! ## Lines that are spaced differently -/

section

variable {L L' : Layout} {line line' : List Char}

/-- **Lines with the same words and as many commas in each gap are judged alike.** -/
theorem Verdict.ofLine_congr (h : L.Of line) (h' : L'.Of line') (hwords : L.words = L'.words)
    (hcounts : L.commaCounts = L'.commaCounts) : Verdict.ofLine line = Verdict.ofLine line' := by
  have hblank : isBlankLine line = isBlankLine line' := by
    rw [Bool.eq_iff_iff, Layout.isBlankLine_iff_of_layout h, Layout.isBlankLine_iff_of_layout h',
      hwords, hcounts]
  have hcommas : checkCommas line = checkCommas line' := by
    rw [Layout.checkCommas_of_commaCounts h, Layout.checkCommas_of_commaCounts h', hwords, hcounts]
  have hline : words line = words line' := by
    rw [words_eq_of_layout h, words_eq_of_layout h', hwords]
  rw [Verdict.ofLine, Verdict.ofLine, hblank, hcommas, hline]

/-- **Such lines ask for the same.** -/
theorem Command.ofLine_congr (h : L.Of line) (h' : L'.Of line') (hwords : L.words = L'.words)
    (hcounts : L.commaCounts = L'.commaCounts) : Command.ofLine line = Command.ofLine line' := by
  have hline : words line = words line' := by
    rw [words_eq_of_layout h, words_eq_of_layout h', hwords]
  rw [Command.ofLine, Command.ofLine, Verdict.ofLine_congr h h' hwords hcounts, hline]

end

/-! ## Blanks at the ends -/

/-- A line is what is left of it after trimming, between two runs of blanks. -/
theorem exists_eq_append_trim (line : List Char) :
    ∃ before after, IsBlankRun before ∧ IsBlankRun after ∧
      line = before ++ (trim line ++ after) := by
  have hback :=
    List.takeWhile_append_dropWhile (p := isBlank) (l := (line.dropWhile isBlank).reverse)
  have hfront := List.takeWhile_append_dropWhile (p := isBlank) (l := line)
  refine ⟨line.takeWhile isBlank, ((line.dropWhile isBlank).reverse.takeWhile isBlank).reverse,
    isBlankRun_takeWhile line, ?_, ?_⟩
  · intro c hc
    exact isBlankRun_takeWhile _ c (List.mem_reverse.1 hc)
  · rw [trim, ← List.reverse_append, hback, List.reverse_reverse, hfront]

/-- Blanks in front of a line belong to its first gap. -/
theorem Layout.Of.append_front {L : Layout} {line before : List Char} (h : L.Of line)
    (hbefore : IsBlankRun before) :
    ({ L with lead := before ++ L.lead } : Layout).Of (before ++ line) := by
  refine ⟨?_, ?_, h.wellSpaced⟩
  · rw [← h.text_eq]
    exact List.append_assoc _ _ _
  · intro c hc
    rcases List.mem_append.1 hc with hc | hc
    · exact (isBlankRun_iff.1 hbefore).1 c hc
    · exact h.lead_gap c hc

/-- Blanks behind a gap add no commas to it. -/
theorem count_comma_append_blank {g after : List Char} (hafter : IsBlankRun after) :
    (g ++ after).count ',' = g.count ',' := by
  rw [List.count_append, List.count_eq_zero.2 (isBlankRun_iff.1 hafter).2, Nat.add_zero]

/-- Two gaps make one gap. -/
theorem isGap_append {g h : List Char} (hg : IsGap g) (hh : IsGap h) : IsGap (g ++ h) := by
  intro c hc
  rcases List.mem_append.1 hc with hc | hc
  · exact hg c hc
  · exact hh c hc

/-- Blanks behind the last part of a line belong to its gap. -/
theorem Layout.exists_parts_append {ps : List (List Char × List Char)} (hps : WellSpaced ps)
    (hne : ps ≠ []) {after : List Char} (hafter : IsBlankRun after) :
    ∃ qs, WellSpaced qs ∧ qs ≠ [] ∧ partsText qs = partsText ps ++ after ∧
      qs.map Prod.fst = ps.map Prod.fst ∧
      qs.map (fun q => q.2.count ',') = ps.map fun p => p.2.count ',' := by
  induction ps with
  | nil => exact absurd rfl hne
  | cons p ps ih =>
    obtain ⟨w, g⟩ := p
    obtain ⟨hw, hg, hgap, hps⟩ := hps
    cases ps with
    | nil =>
      have hafterGap : IsGap after := (isBlankRun_iff.1 hafter).1
      refine ⟨[(w, g ++ after)], ⟨hw, isGap_append hg hafterGap, by simp, trivial⟩, by simp,
        by simp, rfl, ?_⟩
      simp [count_comma_append_blank hafter]
    | cons p ps =>
      obtain ⟨qs, hqs, hqne, htext, hwords, hcounts⟩ := ih hps (by simp)
      refine ⟨(w, g) :: qs, ⟨hw, hg, fun _ => hgap (by simp), hqs⟩, by simp, ?_, ?_, ?_⟩
      · rw [partsText_cons, htext, partsText_cons]
        simp
      · rw [List.map_cons, hwords]
        rfl
      · rw [List.map_cons, hcounts]
        rfl

/-- Blanks behind a line belong to its last gap. -/
theorem Layout.Of.exists_append_back {L : Layout} {line after : List Char} (h : L.Of line)
    (hafter : IsBlankRun after) :
    ∃ L' : Layout, L'.Of (line ++ after) ∧ L'.words = L.words ∧
      L'.commaCounts = L.commaCounts := by
  obtain ⟨lead, ps⟩ := L
  obtain ⟨rfl, hlead, hps⟩ := h
  by_cases hne : ps = []
  · subst hne
    refine ⟨⟨lead ++ after, []⟩, ⟨by simp [text], ?_, trivial⟩, rfl, ?_⟩
    · exact isGap_append hlead (isBlankRun_iff.1 hafter).1
    · simp [commaCounts, gaps, count_comma_append_blank hafter]
  · obtain ⟨qs, hqs, -, htext, hwords, hcounts⟩ := exists_parts_append hps hne hafter
    refine ⟨⟨lead, qs⟩, ⟨by simp [text, htext], hlead, hqs⟩, hwords, ?_⟩
    simpa [commaCounts, gaps, Function.comp_def] using hcounts

/-- **A line may be trimmed before it is read.** -/
theorem Command.ofLine_trim (line : List Char) :
    Command.ofLine (trim line) = Command.ofLine line := by
  obtain ⟨before, after, hbefore, hafter, heq⟩ := exists_eq_append_trim line
  have htrim := Layout.of_ofLine (trim line)
  obtain ⟨L, hback, hwords, hcounts⟩ := htrim.exists_append_back hafter
  have hline := hback.append_front hbefore
  rw [← heq] at hline
  refine ofLine_congr htrim hline hwords.symm ?_
  have hlead : (before ++ L.lead).count ',' = L.lead.count ',' := by
    rw [List.count_append, List.count_eq_zero.2 (isBlankRun_iff.1 hbefore).2, Nat.zero_add]
  rw [← hcounts]
  simp [Layout.commaCounts, Layout.gaps, hlead]

end SetCalculator
