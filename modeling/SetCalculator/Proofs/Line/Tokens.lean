import Mathlib.Data.List.DropRight
import SetCalculator.Proofs.Line.Layout
import SetCalculator.Proofs.Text.Offsets

/-!
# Reading tokens

A cursor is asked for the next token again and again. `Cursor.next_cases` says once what a call can
do: it passes over a gap and takes the word behind it, or finds nothing but a gap. From this follow

* where a cursor can be (`StandsIn.next`): right behind a part of the line, so that its position is
  an offset of the line, and what it has left is what stands there;
* which tokens a cursor reads (`Cursor.mem_tokens_iff`): the maximal runs of what it has left, each
  with its offset. A run is maximal if a separator stands on either side of it, or the end of the
  line does;
* that they are read from left to right (`Cursor.pairwise_tokens`), and that no character besides
  separators is left out (`IsMaximalRun.exists_of_not_separator`).

`tokens_are_the_maximal_runs` puts this together for a line, over any number of calls.
-/

namespace SetCalculator

open Text

/-- A text whose last character, if it has one, separates. -/
def EndsGap (text : List Char) : Prop := ∀ c, text.getLast? = some c → isSeparator c = true

/-- The token is a maximal run of characters that are no separators, and tells where in the line it
starts. -/
def IsMaximalRun (line : List Char) (t : Token) : Prop :=
  ∃ before after, line = before ++ (t.text ++ after) ∧ t.start = byteLength before ∧
    IsWord t.text ∧ EndsGap before ∧ StartsGap after

/-! ## Runs and gaps in front of a text -/

/-- Text that is all gap ends a gap. -/
theorem endsGap_of_isGap {g : List Char} (hg : IsGap g) : EndsGap g := fun c hc =>
  hg c (List.mem_of_getLast? hc)

/-- In front of a text that ends in a gap anything may stand. -/
theorem endsGap_append {front text : List Char} (h : EndsGap text) (hne : text ≠ []) :
    EndsGap (front ++ text) := by
  intro c hc
  rw [List.getLast?_append_of_ne_nil _ hne] at hc
  exact h c hc

/-- The rear of a text that ends in a gap ends in it, too. -/
theorem EndsGap.of_append {front text : List Char} (h : EndsGap (front ++ text)) :
    EndsGap text := by
  intro c hc
  apply h c
  rw [List.getLast?_append_of_ne_nil _ (fun hnil => by simp [hnil] at hc), hc]

/-- A word does not end in a separator. -/
theorem eq_nil_of_endsGap_of_isWord {front text : List Char} (hw : IsWord (front ++ text))
    (h : EndsGap front) : front = [] := by
  rcases List.eq_nil_or_concat front with hnil | ⟨start, c, rfl⟩
  · exact hnil
  · have hsep : isSeparator c = true := h c (by simp)
    exact absurd (by simp) (notMem_of_isWord hw hsep)

/-- A text that starts with a separator does not start with a word. -/
theorem not_startsGap_of_isWord {w rest : List Char} (hw : IsWord w) : ¬ StartsGap (w ++ rest) := by
  intro h
  obtain ⟨c, v, rfl⟩ := List.exists_cons_of_ne_nil hw.1
  have hsep : isSeparator c = true := h c rfl
  exact notMem_of_isWord hw hsep (List.mem_cons_self ..)

/-- Where a gap stands in front, a run starts behind it. -/
theorem exists_append_of_gap {g rest before w after : List Char} (hg : IsGap g) (hw : IsWord w)
    (h : g ++ rest = before ++ (w ++ after)) :
    ∃ between, before = g ++ between ∧ rest = between ++ (w ++ after) := by
  rcases List.append_eq_append_iff.1 h with ⟨between, hbefore, hrest⟩ | ⟨back, hgap, hword⟩
  · exact ⟨between, hbefore, hrest⟩
  · -- the run cannot reach back into the gap
    obtain rfl : back = [] := by
      by_contra hne
      obtain ⟨c, back', rfl⟩ := List.exists_cons_of_ne_nil hne
      have hsep := hg c (by simp [hgap])
      obtain ⟨d, w', rfl⟩ := List.exists_cons_of_ne_nil hw.1
      obtain ⟨rfl, -⟩ := List.cons.inj hword
      exact notMem_of_isWord hw hsep (List.mem_cons_self ..)
    exact ⟨[], by simpa using hgap.symm, by simpa using hword.symm⟩

/-- Where a word stands in front, a maximal run is this word or starts behind it. -/
theorem eq_or_exists_append_of_word {v rest before w after : List Char} (hv : IsWord v)
    (hrest : StartsGap rest) (hw : IsWord w) (hbefore : EndsGap before) (hafter : StartsGap after)
    (h : v ++ rest = before ++ (w ++ after)) :
    (before = [] ∧ w = v) ∨ ∃ between, before = v ++ between ∧ rest = between ++ (w ++ after) := by
  rcases List.append_eq_append_iff.1 h with ⟨between, heq, hrest'⟩ | ⟨back, rfl, hword⟩
  · exact .inr ⟨between, heq, hrest'⟩
  · obtain rfl := eq_nil_of_endsGap_of_isWord hv hbefore
    have htake := congrArg (List.takeWhile (!isSeparator ·)) h
    rw [List.nil_append] at hv htake
    rw [List.nil_append, takeWhile_word_append hv hrest, takeWhile_word_append hw hafter] at htake
    exact .inl ⟨rfl, htake.symm⟩

/-! ## One call -/

namespace Cursor

/-- **What a call can do.** Nothing but a gap is left, and the cursor goes to the end of the line;
or a word stands behind the gap, and the cursor goes behind the word. -/
theorem next_cases (c : Cursor) :
    (IsGap c.rest ∧ c.next = (none, ⟨[], c.position + byteLength c.rest⟩)) ∨
    ∃ gap w rest, c.rest = gap ++ (w ++ rest) ∧ IsGap gap ∧ IsWord w ∧ StartsGap rest ∧
      c.next = (some ⟨w, c.position + byteLength gap⟩,
        ⟨rest, c.position + byteLength gap + byteLength w⟩) := by
  obtain ⟨left, position⟩ := c
  obtain ⟨htext, hlead, hparts⟩ := Layout.of_ofLine left
  generalize Layout.ofLine left = L at htext hlead hparts
  obtain ⟨lead, parts⟩ := L
  cases parts with
  | nil =>
    obtain rfl : lead = left := by simpa [Layout.text] using htext
    exact .inl ⟨hlead, next_gap hlead position⟩
  | cons p ps =>
    obtain ⟨w, g⟩ := p
    obtain ⟨hw, hg, hne, -⟩ := hparts
    have hrest := startsGap_of_wellSpaced hg hne
    rw [Layout.text, Layout.partsText_cons] at htext
    subst htext
    exact .inr ⟨lead, w, _, rfl, hlead, hw, hrest, next_gap_word hlead hw hrest position⟩

/-- A call that gives a token: the gap before it and what is left behind it. -/
theorem next_eq_some {c c' : Cursor} {t : Token} (h : c.next = (some t, c')) :
    ∃ gap, c.rest = gap ++ (t.text ++ c'.rest) ∧ t.start = c.position + byteLength gap ∧
      c'.position = t.start + byteLength t.text ∧ IsGap gap ∧ IsWord t.text ∧
      StartsGap c'.rest := by
  rcases c.next_cases with ⟨-, hnext⟩ | ⟨gap, w, rest, heq, hgap, hw, hrest, hnext⟩
  · rw [h] at hnext
    cases hnext
  · rw [h] at hnext
    cases hnext
    exact ⟨gap, heq, rfl, rfl, hgap, hw, hrest⟩

/-- A call that gives nothing: only separators are left, and the cursor goes to the end. -/
theorem next_eq_none {c c' : Cursor} (h : c.next = (none, c')) :
    IsGap c.rest ∧ c' = ⟨[], c.position + byteLength c.rest⟩ := by
  rcases c.next_cases with ⟨hgap, hnext⟩ | ⟨gap, w, rest, -, -, -, -, hnext⟩
  · rw [h] at hnext
    cases hnext
    exact ⟨hgap, rfl⟩
  · rw [h] at hnext
    cases hnext

/-! ## All calls -/

/-- **The tokens that a cursor reads** are the maximal runs of what it has left. -/
theorem mem_tokens_iff {c : Cursor} {t : Token} :
    t ∈ c.tokens ↔ ∃ before after, c.rest = before ++ (t.text ++ after) ∧
      t.start = c.position + byteLength before ∧ IsWord t.text ∧ EndsGap before ∧
      StartsGap after := by
  fun_induction tokens c with
  | case1 c u c' h ih =>
    obtain ⟨gap, heq, hstart, hposition, hgap, hu, hrest⟩ := next_eq_some h
    rw [List.mem_cons, ih]
    refine ⟨fun hmem => ?_, fun hrun => ?_⟩
    · rcases hmem with rfl | ⟨before, after, heq', hstart', ht, hbefore, hafter⟩
      · exact ⟨gap, c'.rest, heq, hstart, hu, endsGap_of_isGap hgap, hrest⟩
      · -- a separator stands between the two words
        have hne : before ≠ [] := by
          rintro rfl
          rw [heq'] at hrest
          exact not_startsGap_of_isWord ht hrest
        refine ⟨gap ++ (u.text ++ before), after, ?_, ?_, ht, ?_, hafter⟩
        · simp [heq, heq']
        · rw [byteLength_append, byteLength_append]
          omega
        · exact endsGap_append (endsGap_append hbefore hne) (by simp [hne])
    · obtain ⟨before, after, heq', hstart', ht, hbefore, hafter⟩ := hrun
      obtain ⟨between, rfl, hbehind⟩ := exists_append_of_gap hgap ht (heq.symm.trans heq')
      rcases eq_or_exists_append_of_word hu hrest ht hbefore.of_append hafter hbehind with
        ⟨rfl, htext⟩ | ⟨between', rfl, hbehind'⟩
      · left
        rw [List.append_nil, ← hstart] at hstart'
        cases t
        cases u
        simp_all
      · right
        refine ⟨between', after, hbehind', ?_, ht, hbefore.of_append.of_append, hafter⟩
        rw [byteLength_append, byteLength_append] at hstart'
        omega
  | case2 c c' h =>
    obtain ⟨hgap, -⟩ := next_eq_none h
    refine iff_of_false (List.not_mem_nil) ?_
    rintro ⟨before, after, heq, -, ht, -, -⟩
    obtain ⟨d, v, hd⟩ := List.exists_cons_of_ne_nil ht.1
    have hsep := hgap d (by simp [heq, hd])
    exact notMem_of_isWord ht hsep (by simp [hd])

/-- **Tokens are read from left to right.** -/
theorem pairwise_tokens (c : Cursor) : c.tokens.Pairwise fun t t' => t.start < t'.start := by
  fun_induction tokens c with
  | case1 c t c' h ih =>
    obtain ⟨gap, -, -, hposition, -, ht, -⟩ := next_eq_some h
    have hpos := byteLength_pos ht.1
    refine List.pairwise_cons.2 ⟨fun t' ht' => ?_, ih⟩
    obtain ⟨before, -, -, hstart', -⟩ := mem_tokens_iff.1 ht'
    omega
  | case2 => exact .nil

/-- Each token takes at least one character. -/
theorem length_tokens_le (c : Cursor) : c.tokens.length ≤ c.rest.length := by
  fun_induction tokens c with
  | case1 c t c' h ih =>
    have hlt := length_rest_next_lt h
    rw [List.length_cons]
    omega
  | case2 => exact Nat.zero_le _

/-- The cursor after some number of calls. -/
def afterCalls : Nat → Cursor → Cursor
  | 0, c => c
  | k + 1, c => afterCalls k c.next.2

/-- **The answers of successive calls** are the tokens in order, and then nothing for ever. -/
theorem next_afterCalls (k : Nat) (c : Cursor) : (afterCalls k c).next.1 = c.tokens[k]? := by
  induction k generalizing c with
  | zero =>
    rcases h : c.next with ⟨_ | t, c'⟩
    · simp [afterCalls, h, tokens_of_next_none h]
    · simp [afterCalls, h, tokens_of_next_some h]
  | succ k ih =>
    rw [afterCalls, ih]
    rcases h : c.next with ⟨_ | t, c'⟩
    · obtain ⟨-, rfl⟩ := next_eq_none h
      have hend : tokens ⟨[], c.position + byteLength c.rest⟩ = [] :=
        tokens_of_next_none (next_gap (by simp [IsGap]) _)
      simp [hend, tokens_of_next_none h]
    · simp [tokens_of_next_some h]

/-! ## Where a cursor can be -/

/-- The cursor has passed some part of the line, tells its length, and has the rest left. -/
def StandsIn (line : List Char) (c : Cursor) : Prop :=
  ∃ passed, line = passed ++ c.rest ∧ c.position = byteLength passed

/-- A cursor starts at the beginning of its line. -/
theorem standsIn_ofLine (line : List Char) : StandsIn line (ofLine line) := ⟨[], rfl, rfl⟩

variable {line : List Char} {c c' : Cursor} {t : Token}

/-- A call that gives a token takes the cursor from one place of the line to a later one. -/
theorem StandsIn.next_some (h : StandsIn line c) (hnext : c.next = (some t, c')) :
    StandsIn line c' := by
  obtain ⟨passed, rfl, hposition⟩ := h
  obtain ⟨gap, heq, hstart, hposition', -⟩ := next_eq_some hnext
  refine ⟨passed ++ (gap ++ t.text), by simp [heq], ?_⟩
  rw [byteLength_append, byteLength_append]
  omega

/-- **A call keeps the cursor in the line.** -/
theorem StandsIn.next (h : StandsIn line c) : StandsIn line c.next.2 := by
  rcases hnext : c.next with ⟨_ | t, c'⟩
  · obtain ⟨passed, rfl, hposition⟩ := h
    obtain ⟨-, rfl⟩ := next_eq_none hnext
    exact ⟨passed ++ c.rest, by simp, by simp [hposition]⟩
  · exact h.next_some hnext

/-- **No number of calls takes the cursor out of its line.** -/
theorem StandsIn.afterCalls (h : StandsIn line c) (k : Nat) : StandsIn line (afterCalls k c) := by
  induction k generalizing c with
  | zero => exact h
  | succ k ih => exact ih h.next

/-- The position of a cursor is never inside of a character. -/
theorem StandsIn.isOffset (h : StandsIn line c) : IsOffset line c.position := by
  obtain ⟨passed, rfl, hposition⟩ := h
  rw [hposition]
  exact isOffset_byteLength passed c.rest

/-- The line from the cursor on is what the cursor has left. -/
theorem StandsIn.drop_encode (h : StandsIn line c) :
    (encode (String.ofList line)).drop c.position = encode (String.ofList c.rest) := by
  obtain ⟨passed, rfl, hposition⟩ := h
  rw [hposition, drop_encode_append]

/-- The place where a token starts: an offset of the line, from which on the line is the token and
what is left after it. -/
theorem StandsIn.start (h : StandsIn line c) (hnext : c.next = (some t, c')) :
    IsOffset line t.start ∧ (encode (String.ofList line)).drop t.start =
      encode (String.ofList (t.text ++ c'.rest)) := by
  obtain ⟨passed, rfl, hposition⟩ := h
  obtain ⟨gap, heq, hstart, -⟩ := next_eq_some hnext
  have hfront : t.start = byteLength (passed ++ gap) := by
    rw [byteLength_append]
    omega
  rw [heq, ← List.append_assoc, hfront]
  exact ⟨isOffset_byteLength _ _, drop_encode_append _ _⟩

/-- A call that gives a token moves the cursor forward, behind the token. -/
theorem position_lt (hnext : c.next = (some t, c')) :
    c.position ≤ t.start ∧ t.start < c'.position ∧ c'.position = t.start + byteLength t.text := by
  obtain ⟨gap, -, hstart, hposition, -, ht, -⟩ := next_eq_some hnext
  have hpos := byteLength_pos ht.1
  omega

end Cursor

/-! ## The tokens of a line -/

/-- The tokens of a line are its maximal runs of characters that are no separators. -/
theorem mem_tokens_iff_isMaximalRun {line : List Char} {t : Token} :
    t ∈ tokens line ↔ IsMaximalRun line t := by
  rw [tokens, Cursor.mem_tokens_iff]
  simp [Cursor.ofLine, IsMaximalRun]

/-- The bytes of the line at the place of a maximal run are the run. -/
theorem IsMaximalRun.take_encode {line : List Char} {t : Token} (h : IsMaximalRun line t) :
    ((encode (String.ofList line)).drop t.start).take (byteLength t.text) =
      encode (String.ofList t.text) := by
  obtain ⟨before, after, rfl, hstart, -⟩ := h
  rw [hstart, drop_encode_append, take_encode_append]

/-- **Only separators lie outside the runs**: every other character has a maximal run around it. -/
theorem IsMaximalRun.exists_of_not_separator (before after : List Char) {c : Char}
    (hc : isSeparator c = false) :
    ∃ t, IsMaximalRun (before ++ c :: after) t ∧ t.start ≤ byteLength before ∧
      byteLength before < t.start + byteLength t.text := by
  -- the run reaches as far as there are no separators, to the left and to the right
  have hleft := List.rdropWhile_append_rtakeWhile (p := (!isSeparator ·)) (l := before)
  have hright := List.takeWhile_append_dropWhile (p := (!isSeparator ·)) (l := after)
  generalize hfront : before.rdropWhile (!isSeparator ·) = front at hleft
  generalize hinit : before.rtakeWhile (!isSeparator ·) = init at hleft
  generalize htail : after.takeWhile (!isSeparator ·) = tail at hright
  generalize hback : after.dropWhile (!isSeparator ·) = back at hright
  refine ⟨⟨init ++ c :: tail, byteLength front⟩,
    ⟨front, back, ?_, rfl, ⟨by simp, ?_⟩, ?_, ?_⟩, ?_, ?_⟩
  · simp [← hleft, ← hright]
  · intro d hd
    simp only [List.mem_append, List.mem_cons] at hd
    rcases hd with hd | rfl | hd
    · rw [← hinit] at hd
      simpa using List.mem_rtakeWhile_imp hd
    · exact hc
    · rw [← htail] at hd
      simpa using List.mem_takeWhile_imp hd
  · intro d hd
    have hne : before.rdropWhile (!isSeparator ·) ≠ [] := by
      rintro hnil
      rw [← hfront, hnil] at hd
      cases hd
    have hlast := List.rdropWhile_last_not (!isSeparator ·) before hne
    rw [← hfront, List.getLast?_eq_some_getLast hne] at hd
    simpa [Option.some_inj.1 hd] using hlast
  · intro d hd
    have hhead := List.head?_dropWhile_not (!isSeparator ·) after
    rw [hback, hd] at hhead
    simpa using hhead
  · rw [← hleft, byteLength_append]
    exact Nat.le_add_right _ _
  · have hpos := c.utf8Size_pos
    simp only [← hleft, byteLength_append, byteLength_cons]
    omega

/-- **The tokens of a line, read by any number of calls.** The calls answer with the tokens in order
and from then on with nothing, and there are no more tokens than the line has bytes. The tokens are
exactly the maximal runs without separators, from left to right; the bytes at the offset of a token
are the token, and what lies outside all of them separates. After any number of calls the position
is an offset of the line, and the line from there on is what is left; a call that gives a token goes
on to its start and from there behind it, and both are offsets as well. -/
theorem tokens_are_the_maximal_runs (line : List Char) :
    (∀ k, (Cursor.afterCalls k (.ofLine line)).next.1 = (tokens line)[k]?) ∧
    (tokens line).length ≤ byteLength line ∧
    (∀ t, t ∈ tokens line ↔ IsMaximalRun line t) ∧
    (tokens line).Pairwise (fun t t' => t.start < t'.start) ∧
    (∀ t ∈ tokens line, ((encode (String.ofList line)).drop t.start).take (byteLength t.text) =
      encode (String.ofList t.text)) ∧
    (∀ before c after, line = before ++ c :: after →
      (∀ t ∈ tokens line, ¬ (t.start ≤ byteLength before ∧
        byteLength before < t.start + byteLength t.text)) → isSeparator c = true) ∧
    ∀ k, let c := Cursor.afterCalls k (.ofLine line)
      c.position ≤ byteLength line ∧ IsOffset line c.position ∧
      (encode (String.ofList line)).drop c.position = encode (String.ofList c.rest) ∧
      ∀ t c', c.next = (some t, c') →
        c.position ≤ t.start ∧ t.start < c'.position ∧ c'.position = t.start + byteLength t.text ∧
        IsOffset line t.start ∧ IsOffset line c'.position ∧
        (encode (String.ofList line)).drop t.start =
          encode (String.ofList (t.text ++ c'.rest)) := by
  refine ⟨fun k => Cursor.next_afterCalls k _, ?_, fun t => mem_tokens_iff_isMaximalRun,
    Cursor.pairwise_tokens _, ?_, ?_, ?_⟩
  · exact Nat.le_trans (Cursor.length_tokens_le _) (length_le_byteLength line)
  · intro t ht
    exact (mem_tokens_iff_isMaximalRun.1 ht).take_encode
  · rintro before c after rfl hout
    by_contra hc
    obtain ⟨t, ht, hcovers⟩ :=
      IsMaximalRun.exists_of_not_separator before after (Bool.eq_false_iff.2 hc)
    exact hout t (mem_tokens_iff_isMaximalRun.2 ht) hcovers
  · intro k c
    have hstands : Cursor.StandsIn line c := (Cursor.standsIn_ofLine line).afterCalls k
    refine ⟨hstands.isOffset.le_byteLength, hstands.isOffset, hstands.drop_encode, ?_⟩
    intro t c' hnext
    obtain ⟨hle, hlt, hposition⟩ := Cursor.position_lt hnext
    obtain ⟨hoffset, hdrop⟩ := hstands.start hnext
    exact ⟨hle, hlt, hposition, hoffset, (hstands.next_some hnext).isOffset, hdrop⟩

/-- The second token of a line with characters of two and three bytes, after one call. -/
theorem tokens_are_the_maximal_runs_of_wide_characters :
    let line := "é,\u3000xy\u3000".toList
    let t : Token := ⟨"xy".toList, 6⟩
    (Cursor.afterCalls 1 (.ofLine line)).next = (some t, ⟨"\u3000".toList, 8⟩) ∧
    (Cursor.afterCalls 2 (.ofLine line)).next.1 = none ∧
    IsMaximalRun line t ∧
    ((encode (String.ofList line)).drop 6).take 2 = encode (String.ofList t.text) ∧
    isSeparator '\u3000' = true ∧
    (2 ≤ 6 ∧ 6 < 8 ∧ IsOffset line 6 ∧ IsOffset line 8) := by
  intro line t
  obtain ⟨hanswers, -, hruns, -, hbytes, houtside, hcalls⟩ := tokens_are_the_maximal_runs line
  have hmem : t ∈ tokens line := by decide +kernel
  have hnext : (Cursor.afterCalls 1 (.ofLine line)).next = (some t, ⟨"\u3000".toList, 8⟩) := by
    decide +kernel
  obtain ⟨-, -, -, hnexts⟩ := hcalls 1
  obtain ⟨hle, hlt, -, hstart, hstop, -⟩ := hnexts t _ hnext
  refine ⟨hnext, (hanswers 2).trans (by decide +kernel), (hruns t).1 hmem, hbytes t hmem, ?_,
    hle, hlt, hstart, hstop⟩
  exact houtside "é,".toList '\u3000' "xy\u3000".toList (by decide +kernel) (by decide +kernel)

end SetCalculator
