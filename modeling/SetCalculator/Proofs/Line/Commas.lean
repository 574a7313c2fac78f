import Mathlib.Tactic.ByContra
import Mathlib.Tactic.Push
import SetCalculator.Line.Commas
import SetCalculator.Proofs.Line.Layout

/-!
# Comma errors by the gaps of a line

The check of the commas scans a copy of the line in which neighbouring operands run together, and
counts commas on the line itself. Both are read off the gaps `g₀ … gₙ` of the line's layout:

* the scan meets the gaps in order. A comma in `g₀` or `g₁` ends it at once; from `g₂` on, of a gap
  it sees just as many commas as the gap has, and the word behind the gap settles a single one
  (`scanCommas_partsText`), so it reports two commas of one gap, or else one in the last gap;
* if the scan ends well, every gap from `g₂` on holds at most one comma and the others none, so the
  count is right only if none of those between two operands is without (`sum_count_eq_length_iff`).

`checkCommas_by_gaps` puts the two together, in the order in which the rejections are reported.
-/

namespace SetCalculator

open Text

namespace Layout

/-- The gaps after the operands, `g₂ … gₙ`. -/
def operandGaps (L : Layout) : List (List Char) := L.gaps.drop 2

/-- The gaps between two operands, `g₂ … gₙ₋₁`. -/
def innerGaps (L : Layout) : List (List Char) := L.operandGaps.dropLast

/-- The gaps after the operands are those of the parts behind the keyword. -/
theorem operandGaps_cons (lead w g : List Char) (ps : List (List Char × List Char)) :
    operandGaps ⟨lead, (w, g) :: ps⟩ = ps.map Prod.snd := rfl

/-- The gap behind the keyword is the second of the line. -/
theorem gaps_getElem?_one_cons (lead w g : List Char) (ps : List (List Char × List Char)) :
    (gaps ⟨lead, (w, g) :: ps⟩)[1]? = some g := rfl

end Layout

/-! ## Blanks and commas of a gap -/

/-- A comma is a separator, but no blank. -/
theorem isBlank_comma : isBlank ',' = false := by decide

/-- A blank is a separator. -/
theorem isSeparator_of_isBlank {c : Char} (h : isBlank c = true) : isSeparator c = true := by
  simp [isSeparator, h]

/-- Words hold no blanks. -/
theorem not_isBlank_of_isWord {w : List Char} (hw : IsWord w) : ∀ c ∈ w, isBlank c = false := by
  intro c hc
  have := hw.2 c hc
  simp only [isSeparator, Bool.or_eq_false_iff] at this
  exact this.2

/-- A gap without commas holds blanks alone. -/
theorem isBlank_of_comma_notMem {g : List Char} (hg : IsGap g) (h : ',' ∉ g) :
    ∀ c ∈ g, isBlank c = true := by
  intro c hc
  have := hg c hc
  simp only [isSeparator, Bool.or_eq_true, beq_iff_eq] at this
  rcases this with rfl | hb
  · exact absurd hc h
  · exact hb

/-- A gap with a comma is blanks, the first comma, and the rest of the gap. -/
theorem exists_blanks_append_comma {g : List Char} (hg : IsGap g) (h : ',' ∈ g) :
    ∃ bs rest, g = bs ++ ',' :: rest ∧ ∀ c ∈ bs, isBlank c = true := by
  obtain ⟨bs, rest, rfl, hbs⟩ := List.eq_append_cons_of_mem h
  refine ⟨bs, rest, rfl, isBlank_of_comma_notMem (fun c hc => hg c ?_) hbs⟩
  simp [hc]

/-- Without its blanks a gap is a run of as many commas as it has. -/
theorem filter_not_isBlank_gap {g : List Char} (hg : IsGap g) :
    g.filter (!isBlank ·) = List.replicate (g.count ',') ',' := by
  rw [← List.filter_beq]
  refine List.filter_congr fun c hc => ?_
  have hsep := hg c hc
  by_cases hcomma : c = ','
  · simp [hcomma, isBlank_comma]
  · have : isBlank c = true := by simpa [isSeparator, hcomma] using hsep
    simp [this, hcomma]

/-- Nothing is lost of a word where blanks are left out. -/
theorem filter_not_isBlank_word {w : List Char} (hw : IsWord w) : w.filter (!isBlank ·) = w :=
  List.filter_eq_self.2 fun c hc => by simp [not_isBlank_of_isWord hw c hc]

/-- Nothing is left of blanks where blanks are left out. -/
theorem filter_not_isBlank_blanks {g : List Char} (hg : ∀ c ∈ g, isBlank c = true) :
    g.filter (!isBlank ·) = [] :=
  List.filter_eq_nil_iff.2 fun c hc => by simp [hg c hc]

/-! ## The scan over the operands -/

/-- Behind a word, two or more commas in a row are refused; after one or none the scan goes on with
that comma pending or not. -/
theorem scanCommas_replicate (k : Nat) (rest : List Char) :
    scanCommas true false (List.replicate k ',' ++ rest) =
      if 2 ≤ k then .error .consecutiveCommas else scanCommas true (decide (k = 1)) rest := by
  match k with
  | 0 => simp
  | 1 => simp [scanCommas]
  | k + 2 => simp [List.replicate_succ, scanCommas]

/-- **The scan over the operands**: two commas of one gap are reported, wherever they are, and
otherwise a comma of the last gap. -/
theorem scanCommas_partsText {p : List Char × List Char} {ps : List (List Char × List Char)}
    (h : Layout.WellSpaced (p :: ps)) (commaPending : Bool) :
    scanCommas true commaPending ((Layout.partsText (p :: ps)).filter (!isBlank ·)) =
      if ∃ g ∈ (p :: ps).map Prod.snd, 2 ≤ g.count ',' then .error .consecutiveCommas
      else if ∃ g ∈ ((p :: ps).map Prod.snd).getLast?, ',' ∈ g then .error .trailingComma
      else .ok () := by
  induction ps generalizing p commaPending with
  | nil =>
    obtain ⟨w, g⟩ := p
    obtain ⟨hw, hg, -, -⟩ := h
    rw [Layout.partsText_cons, Layout.partsText_nil, List.append_nil, List.filter_append,
      filter_not_isBlank_word hw, filter_not_isBlank_gap hg,
      scanCommas_append_of_not_separator hw.1 hw.2, ← List.append_nil (List.replicate _ _),
      scanCommas_replicate]
    by_cases hmany : 2 ≤ g.count ','
    · simp [hmany]
    · have hmem : ',' ∈ g ↔ g.count ',' = 1 := by
        rw [← List.one_le_count_iff]
        omega
      simp [hmany, scanCommas, hmem]
  | cons q qs ih =>
    obtain ⟨w, g⟩ := p
    obtain ⟨hw, hg, -, hqs⟩ := h
    rw [Layout.partsText_cons, List.filter_append, List.filter_append,
      filter_not_isBlank_word hw, filter_not_isBlank_gap hg,
      scanCommas_append_of_not_separator hw.1 hw.2, scanCommas_replicate]
    by_cases hmany : 2 ≤ g.count ','
    · rw [if_pos hmany, if_pos ⟨g, by simp, hmany⟩]
    · have hsame : (∃ k ∈ ((w, g) :: q :: qs).map Prod.snd, 2 ≤ k.count ',') ↔
          ∃ k ∈ (q :: qs).map Prod.snd, 2 ≤ k.count ',' := by
        simp [hmany]
      rw [if_neg hmany, ih hqs]
      exact (if_congr hsame rfl rfl).symm

/-! ## The scan over the whole line -/

/-- The first operand, or nothing, stands behind the blank that is kept. -/
theorem head?_filter_partsText {ps : List (List Char × List Char)} (h : Layout.WellSpaced ps) :
    ((Layout.partsText ps).filter (!isBlank ·)).head? ≠ some ',' := by
  match ps with
  | [] => simp
  | (w, g) :: ps =>
    obtain ⟨hw, -, -, -⟩ := h
    obtain ⟨c, v, rfl⟩ := List.exists_cons_of_ne_nil hw.1
    have hc : c ≠ ',' := fun hc => comma_notMem_of_isWord hw (by simp [hc])
    have hblank := not_isBlank_of_isWord hw c (by simp)
    simpa [hblank] using hc

/-- The scan behind the keyword: a comma of the gap there is reported, and otherwise what the scan
over the operands finds. -/
theorem scanCommas_gap_partsText {g : List Char} {ps : List (List Char × List Char)}
    (hg : IsGap g) (hne : ps ≠ [] → g ≠ []) (hps : Layout.WellSpaced ps) :
    scanCommas false false (normalizeFrom true false (g ++ Layout.partsText ps)) =
      if ',' ∈ g then .error .commaAfterKeyword
      else scanCommas true false ((Layout.partsText ps).filter (!isBlank ·)) := by
  by_cases hcomma : ',' ∈ g
  · rw [if_pos hcomma]
    -- Of the blanks before the comma the first is kept, so the scan meets the comma right behind
    -- the keyword or behind one blank.
    obtain ⟨bs, rest, rfl, hbs⟩ := exists_blanks_append_comma hg hcomma
    cases bs with
    | nil => simp [normalizeFrom, isBlank_comma, scanCommas]
    | cons b bs =>
      have hb := hbs b (by simp)
      have hrest : ∀ c ∈ bs, isBlank c = true := fun c hc => hbs c (by simp [hc])
      have hkept : normalizeFrom true false (b :: (bs ++ ',' :: (rest ++ Layout.partsText ps))) =
          b :: ',' :: (rest ++ Layout.partsText ps).filter (!isBlank ·) := by
        rw [normalizeFrom_true_false_cons hb, List.filter_append, filter_not_isBlank_blanks hrest,
          List.nil_append, List.filter_cons_of_pos (by simp [isBlank_comma])]
      have hb' : b ≠ ',' := fun h => by simp [h, isBlank_comma] at hb
      simp [hkept, scanCommas, hb, hb']
  · rw [if_neg hcomma]
    have hblank := isBlank_of_comma_notMem hg hcomma
    cases g with
    | nil =>
      obtain rfl : ps = [] := by
        by_contra hcon
        exact hne hcon rfl
      rfl
    | cons b bs =>
      have hb := hblank b (by simp)
      have hrest : ∀ c ∈ bs, isBlank c = true := fun c hc => hblank c (by simp [hc])
      have hkept : normalizeFrom true false (b :: (bs ++ Layout.partsText ps)) =
          b :: (Layout.partsText ps).filter (!isBlank ·) := by
        rw [normalizeFrom_true_false_cons hb, List.filter_append, filter_not_isBlank_blanks hrest,
          List.nil_append]
      have hb' : b ≠ ',' := fun h => by simp [h, isBlank_comma] at hb
      rw [List.cons_append, hkept, scanCommas, if_neg hb', if_pos hb,
        if_neg (head?_filter_partsText hps)]

/-- **The scan decides by the gaps of the line**: by a comma in front of it, one behind the keyword,
two in one gap, and one at the end, in this order. -/
theorem checkPlacement_normalize {L : Layout} {line : List Char} (h : L.Of line) :
    checkPlacement (normalize line) =
      if ',' ∈ L.lead then .error .leadingComma
      else if ∃ g ∈ L.gaps[1]?, ',' ∈ g then .error .commaAfterKeyword
      else if ∃ g ∈ L.operandGaps, 2 ≤ g.count ',' then .error .consecutiveCommas
      else if ∃ g ∈ L.operandGaps.getLast?, ',' ∈ g then .error .trailingComma
      else .ok () := by
  obtain ⟨lead, parts⟩ := L
  obtain ⟨rfl, hlead, hparts⟩ := h
  simp only [Layout.text, normalize] at hlead hparts ⊢
  by_cases hcomma : ',' ∈ lead
  · obtain ⟨bs, rest, rfl, hbs⟩ := exists_blanks_append_comma hlead hcomma
    rw [List.append_assoc, normalizeFrom_append_of_blank hbs rfl]
    simp [normalizeFrom, isBlank_comma, checkPlacement]
  rw [if_neg hcomma,
    normalizeFrom_append_of_blank (isBlank_of_comma_notMem hlead hcomma) rfl]
  cases parts with
  | nil => simp [checkPlacement, scanCommas, Layout.gaps, Layout.operandGaps]
  | cons part ps =>
    obtain ⟨w, g⟩ := part
    obtain ⟨hw, hg, hne, hps⟩ := hparts
    have hhead : (w ++ normalizeFrom true false (g ++ Layout.partsText ps)).head? ≠ some ',' := by
      obtain ⟨c, v, rfl⟩ := List.exists_cons_of_ne_nil hw.1
      have hc : c ≠ ',' := fun hc => comma_notMem_of_isWord hw (by simp [hc])
      simpa using hc
    rw [Layout.partsText_cons, normalizeFrom_false_append hw.1 (not_isBlank_of_isWord hw),
      checkPlacement, if_neg hhead, scanCommas_append_of_not_separator hw.1 hw.2,
      scanCommas_gap_partsText hg hne hps]
    rw [Layout.operandGaps_cons, Layout.gaps_getElem?_one_cons]
    cases ps with
    | nil => simp [scanCommas]
    | cons p ps =>
      rw [scanCommas_partsText hps]
      simp only [Option.mem_some_iff, exists_eq_left']

/-! ## The count of the commas -/

/-- There are as many words as there are parts. -/
theorem length_words (L : Layout) : L.words.length = L.parts.length := by
  simp [Layout.words]

/-- Gaps with at most one comma each hold no more commas than there are gaps. -/
theorem sum_count_le_length {gs : List (List Char)} (h : ∀ g ∈ gs, g.count ',' ≤ 1) :
    (gs.map (List.count ',')).sum ≤ gs.length := by
  induction gs with
  | nil => simp
  | cons g gs ih =>
    have hg := h g (by simp)
    have hgs := ih fun k hk => h k (by simp [hk])
    simp only [List.map_cons, List.sum_cons, List.length_cons]
    omega

/-- They hold as many only if none of them is without a comma. -/
theorem sum_count_eq_length_iff {gs : List (List Char)} (h : ∀ g ∈ gs, g.count ',' ≤ 1) :
    (gs.map (List.count ',')).sum = gs.length ↔ ∀ g ∈ gs, g.count ',' = 1 := by
  induction gs with
  | nil => simp
  | cons g gs ih =>
    have hg := h g (by simp)
    have hgs : ∀ k ∈ gs, k.count ',' ≤ 1 := fun k hk => h k (by simp [hk])
    have hsum := sum_count_le_length hgs
    simp only [List.map_cons, List.sum_cons, List.length_cons, List.forall_mem_cons, ← ih hgs]
    omega

/-- Where no comma stands wrong, the count is right exactly if no comma is missing. -/
theorem commasMatchWords_iff {L : Layout} {line : List Char} (h : L.Of line)
    (hlead : ',' ∉ L.lead) (hkeyword : ¬ ∃ g ∈ L.gaps[1]?, ',' ∈ g)
    (hmany : ¬ ∃ g ∈ L.operandGaps, 2 ≤ g.count ',')
    (hlast : ¬ ∃ g ∈ L.operandGaps.getLast?, ',' ∈ g) :
    commasMatchWords line = true ↔ L.words ≠ [] ∧ ∀ g ∈ L.innerGaps, g.count ',' = 1 := by
  rw [commasMatchWords, words_eq_of_layout h, count_comma_of_layout h, length_words]
  obtain ⟨lead, parts⟩ := L
  have hleadCount : lead.count ',' = 0 := List.count_eq_zero.2 hlead
  match parts with
  | [] => simp [Layout.words]
  | [(w, g)] => simp [Layout.words, Layout.innerGaps, Layout.operandGaps, Layout.gaps]
  | (w, g) :: p :: ps =>
    have hg : g.count ',' = 0 := List.count_eq_zero.2 (by simpa [Layout.gaps] using hkeyword)
    obtain ⟨gs, k, hgs⟩ : ∃ gs k, (p :: ps).map Prod.snd = gs ++ [k] :=
      ⟨_, _, (List.dropLast_concat_getLast (by simp)).symm⟩
    have hlen : gs.length = ps.length := by
      have := congrArg List.length hgs
      simpa using this.symm
    have hoperand : Layout.operandGaps ⟨lead, (w, g) :: p :: ps⟩ = gs ++ [k] := hgs
    have hk : k.count ',' = 0 :=
      List.count_eq_zero.2 (by simpa [hoperand, List.getLast?_append] using hlast)
    have hone : ∀ x ∈ gs, x.count ',' ≤ 1 := by
      intro x hx
      by_contra hcon
      exact hmany ⟨x, by simp [hoperand, hx], by omega⟩
    -- Only the inner gaps have commas, and there are two more words than inner gaps.
    have hcount : (((Layout.mk lead ((w, g) :: p :: ps)).gaps).map (List.count ',')).sum =
        (gs.map (List.count ',')).sum := by
      have hgaps : (Layout.mk lead ((w, g) :: p :: ps)).gaps = lead :: g :: (gs ++ [k]) := by
        rw [← hgs]
        rfl
      simp [hgaps, hleadCount, hg, hk]
    rw [hcount, Layout.innerGaps, hoperand, List.dropLast_concat, ← sum_count_eq_length_iff hone]
    simp [Layout.words, hlen]

/-! ## The check as a whole -/

/-- An element of a list is the last one or stands before it. -/
theorem mem_dropLast_or_mem_getLast? {α : Type _} {l : List α} {a : α} (h : a ∈ l) :
    a ∈ l.dropLast ∨ a ∈ l.getLast? := by
  have hne := List.ne_nil_of_mem h
  rw [← List.dropLast_concat_getLast hne, List.mem_append, List.mem_singleton] at h
  rw [List.getLast?_eq_some_getLast hne, Option.mem_some_iff]
  exact h.imp_right Eq.symm

/-- **What the check of the commas reports**, by the gaps of the line. -/
theorem checkCommas_of_layout {L : Layout} {line : List Char} (h : L.Of line) :
    checkCommas line =
      if ',' ∈ L.lead then .error .leadingComma
      else if ∃ g ∈ L.gaps[1]?, ',' ∈ g then .error .commaAfterKeyword
      else if ∃ g ∈ L.operandGaps, 2 ≤ g.count ',' then .error .consecutiveCommas
      else if ∃ g ∈ L.operandGaps.getLast?, ',' ∈ g then .error .trailingComma
      else if L.words = [] ∨ ∃ g ∈ L.innerGaps, ',' ∉ g then .error .missingComma
      else .ok () := by
  rw [checkCommas, checkPlacement_normalize h]
  by_cases h0 : ',' ∈ L.lead
  · simp only [if_pos h0]
    rfl
  by_cases h1 : ∃ g ∈ L.gaps[1]?, ',' ∈ g
  · simp only [if_neg h0, if_pos h1]
    rfl
  by_cases h2 : ∃ g ∈ L.operandGaps, 2 ≤ g.count ','
  · simp only [if_neg h0, if_neg h1, if_pos h2]
    rfl
  by_cases h3 : ∃ g ∈ L.operandGaps.getLast?, ',' ∈ g
  · simp only [if_neg h0, if_neg h1, if_neg h2, if_pos h3]
    rfl
  -- The scan found nothing, so the count decides; it can only find a comma missing, since no gap
  -- has two.
  simp only [if_neg h0, if_neg h1, if_neg h2, if_neg h3]
  show (if commasMatchWords line = true then _ else _) = _
  have hone : ∀ g ∈ L.innerGaps, g.count ',' = 1 ↔ ',' ∈ g := by
    intro g hg
    have hle : ¬ 2 ≤ g.count ',' := fun hcon => h2 ⟨g, List.dropLast_subset _ hg, hcon⟩
    rw [← List.one_le_count_iff]
    omega
  have hmatch := commasMatchWords_iff h h0 h1 h2 h3
  by_cases hmissing : L.words = [] ∨ ∃ g ∈ L.innerGaps, ',' ∉ g
  · rw [if_pos hmissing, if_neg]
    rw [hmatch]
    rintro ⟨hne, hall⟩
    rcases hmissing with hnil | ⟨g, hg, hnot⟩
    · exact hne hnil
    · exact hnot ((hone g hg).1 (hall g hg))
  · rw [if_neg hmissing, if_pos]
    rw [hmatch]
    push Not at hmissing
    exact ⟨hmissing.1, fun g hg => (hone g hg).2 (hmissing.2 g hg)⟩

/-- The check passes exactly the lines with one comma in each gap between two operands and none
elsewhere. -/
theorem checkCommas_eq_ok_iff {L : Layout} {line : List Char} (h : L.Of line) :
    checkCommas line = .ok () ↔ L.words ≠ [] ∧ ',' ∉ L.lead ∧ (∀ g ∈ L.gaps[1]?, ',' ∉ g) ∧
      (∀ g ∈ L.operandGaps.getLast?, ',' ∉ g) ∧ ∀ g ∈ L.innerGaps, g.count ',' = 1 := by
  rw [checkCommas_of_layout h]
  refine ⟨fun hok => ?_, fun h => ?_⟩
  · split at hok
    · cases hok
    split at hok
    · cases hok
    split at hok
    · cases hok
    split at hok
    · cases hok
    split at hok
    · cases hok
    rename_i h0 h1 h2 h3 h4
    push Not at h1 h2 h3 h4
    refine ⟨h4.1, h0, h1, h3, fun g hg => ?_⟩
    have hle := h2 g (List.dropLast_subset _ hg)
    have hge := List.one_le_count_iff.2 (h4.2 g hg)
    omega
  · obtain ⟨hne, h0, h1, h3, hinner⟩ := h
    -- An operand gap is an inner one, with one comma, or the last, with none.
    have h2 : ¬ ∃ g ∈ L.operandGaps, 2 ≤ g.count ',' := by
      rintro ⟨g, hg, hmany⟩
      rcases mem_dropLast_or_mem_getLast? hg with hg | hg
      · have := hinner g hg
        omega
      · have := List.count_eq_zero.2 (h3 g hg)
        omega
    have h4 : ¬ (L.words = [] ∨ ∃ g ∈ L.innerGaps, ',' ∉ g) := by
      rintro (hnil | ⟨g, hg, hnot⟩)
      · exact hne hnil
      · have := hinner g hg
        have := List.count_eq_zero.2 hnot
        omega
    rw [if_neg h0, if_neg (by simpa using h1), if_neg h2, if_neg (by simpa using h3), if_neg h4]

/-- **The comma check, for every line.** The line has one layout `g₀ w₁ g₁ … wₙ gₙ`. The check
reports a comma of `g₀`; else one of `g₁`, which is the end of the line if `n = 1`; else two commas
of one of `g₂ … gₙ`; else a comma of `gₙ` if `n ≥ 2`; else that no word is there, or that one of
`g₂ … gₙ₋₁` is without a comma. It passes the line exactly if there is a keyword, no comma stands
before the first operand or after the last, and one stands between each two. -/
theorem checkCommas_by_gaps (line : List Char) :
    ∃ L : Layout, (∀ L' : Layout, L'.Of line ↔ L' = L) ∧ words line = L.words ∧
      checkCommas line =
        (if ',' ∈ L.lead then .error .leadingComma
        else if ∃ g ∈ L.gaps[1]?, ',' ∈ g then .error .commaAfterKeyword
        else if ∃ g ∈ L.operandGaps, 2 ≤ g.count ',' then .error .consecutiveCommas
        else if ∃ g ∈ L.operandGaps.getLast?, ',' ∈ g then .error .trailingComma
        else if L.words = [] ∨ ∃ g ∈ L.innerGaps, ',' ∉ g then .error .missingComma
        else .ok ()) ∧
      (checkCommas line = .ok () ↔ L.words ≠ [] ∧ ',' ∉ L.lead ∧ (∀ g ∈ L.gaps[1]?, ',' ∉ g) ∧
        (∀ g ∈ L.operandGaps.getLast?, ',' ∉ g) ∧ ∀ g ∈ L.innerGaps, g.count ',' = 1) :=
  have hof := Layout.of_ofLine line
  ⟨Layout.ofLine line, fun _ => Layout.of_iff_eq_ofLine, words_eq_of_layout hof,
    checkCommas_of_layout hof, checkCommas_eq_ok_iff hof⟩

end SetCalculator
