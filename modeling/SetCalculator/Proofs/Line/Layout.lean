import Mathlib.Algebra.GroupWithZero.Nat
import SetCalculator.Line.Token

/-!
# The layout of a line

Every line falls apart into words and the gaps around them: `g₀ w₁ g₁ w₂ … wₙ gₙ`, where a word is a
non-empty run without separators, a gap is a run of separators, and a gap between two words is not
empty. `Layout.of_iff_eq_ofLine` says that there is exactly one such layout and that
`Layout.ofLine` computes it; `words_eq_of_layout` says that its words are the ones that the cursor
reads, and `count_comma_of_layout` that every comma of the line stands in a gap. Statements about
what stands between the words of a line are statements about the gaps of its layout.
-/

namespace SetCalculator

open Text

/-- A non-empty run without separators. -/
def IsWord (w : List Char) : Prop := w ≠ [] ∧ ∀ c ∈ w, isSeparator c = false

/-- A run of separators; it may be empty. -/
def IsGap (g : List Char) : Prop := ∀ c ∈ g, isSeparator c = true

/-- A text whose first character, if it has one, separates. -/
def StartsGap (rest : List Char) : Prop := ∀ c, rest.head? = some c → isSeparator c = true

/-- A sequence of words and gaps: the gap before the first word, and each word with the gap after
it. -/
structure Layout where
  lead : List Char
  parts : List (List Char × List Char)
  deriving DecidableEq

namespace Layout

/-- The text of words and the gaps after them. -/
def partsText (ps : List (List Char × List Char)) : List Char := ps.flatMap fun p => p.1 ++ p.2

/-- The line that a layout stands for. -/
def text (L : Layout) : List Char := L.lead ++ partsText L.parts

/-- The words of a layout. -/
def words (L : Layout) : List (List Char) := L.parts.map Prod.fst

/-- The gaps of a layout: the first stands before all words, and each other one after its word. -/
def gaps (L : Layout) : List (List Char) := L.lead :: L.parts.map Prod.snd

/-- Each part is a word and a gap, and the gap is not empty where another word follows. -/
def WellSpaced : List (List Char × List Char) → Prop
  | [] => True
  | (w, g) :: ps => IsWord w ∧ IsGap g ∧ (ps ≠ [] → g ≠ []) ∧ WellSpaced ps

/-- `L` is a layout of `line`. -/
structure Of (L : Layout) (line : List Char) : Prop where
  text_eq : L.text = line
  lead_gap : IsGap L.lead
  wellSpaced : WellSpaced L.parts

/-- The layout of a line with one more character in front. -/
def push (c : Char) (L : Layout) : Layout :=
  if isSeparator c then { L with lead := c :: L.lead }
  else match L.lead, L.parts with
    | [], (w, g) :: ps => ⟨[], (c :: w, g) :: ps⟩
    | lead, ps => ⟨[], ([c], lead) :: ps⟩

/-- The layout of a line. -/
def ofLine (line : List Char) : Layout := line.foldr push ⟨[], []⟩

@[simp] theorem partsText_nil : partsText [] = [] := rfl

@[simp] theorem partsText_cons (p : List Char × List Char) (ps : List (List Char × List Char)) :
    partsText (p :: ps) = p.1 ++ (p.2 ++ partsText ps) := by
  simp [partsText]

@[simp] theorem ofLine_cons (c : Char) (line : List Char) :
    ofLine (c :: line) = push c (ofLine line) := rfl

/-! ## Every line has a layout -/

/-- A separator in front of a gap makes a gap. -/
theorem isGap_cons {c : Char} {g : List Char} (hc : isSeparator c = true) (hg : IsGap g) :
    IsGap (c :: g) := by
  intro d hd
  rcases List.mem_cons.1 hd with rfl | hd
  · exact hc
  · exact hg d hd

/-- A single character that separates nothing is a word. -/
theorem isWord_singleton {c : Char} (hc : isSeparator c = false) : IsWord [c] :=
  ⟨by simp, by simpa using hc⟩

/-- A character that separates nothing, in front of a word, makes a word. -/
theorem isWord_cons {c : Char} {w : List Char} (hc : isSeparator c = false) (hw : IsWord w) :
    IsWord (c :: w) := by
  refine ⟨by simp, fun d hd => ?_⟩
  rcases List.mem_cons.1 hd with rfl | hd
  · exact hc
  · exact hw.2 d hd

/-- One more character in front of a line goes in front of its layout. -/
theorem Of.push {L : Layout} {line : List Char} (h : L.Of line) (c : Char) :
    (L.push c).Of (c :: line) := by
  obtain ⟨lead, parts⟩ := L
  obtain ⟨htext, hlead, hparts⟩ := h
  by_cases hc : isSeparator c = true
  · simp only [Layout.push, hc, if_true]
    exact ⟨by simpa [text] using htext, isGap_cons hc hlead, hparts⟩
  -- The character continues the first word if no gap is between, and else is a word of its own.
  have hc' : isSeparator c = false := by simpa using hc
  match lead, parts with
  | [], (w, g) :: ps =>
    obtain ⟨hw, hg, hne, hps⟩ := hparts
    simp only [Layout.push, hc', Bool.false_eq_true, if_false]
    exact ⟨by simpa [text] using htext, by simp [IsGap], isWord_cons hc' hw, hg, hne, hps⟩
  | [], [] =>
    simp only [Layout.push, hc', Bool.false_eq_true, if_false]
    exact ⟨by simpa [text] using htext, by simp [IsGap], isWord_singleton hc', by simp [IsGap],
      by simp, trivial⟩
  | d :: lead, ps =>
    simp only [Layout.push, hc', Bool.false_eq_true, if_false]
    exact ⟨by simpa [text] using htext, by simp [IsGap], isWord_singleton hc', hlead, by simp,
      hparts⟩

/-- `ofLine` computes a layout. -/
theorem of_ofLine (line : List Char) : (ofLine line).Of line := by
  induction line with
  | nil => exact ⟨rfl, by simp [IsGap, ofLine], trivial⟩
  | cons c line ih => exact ih.push c

/-! ## No line has two -/

/-- Separators in front of a line widen its first gap. -/
theorem ofLine_gap_append {g : List Char} (hg : IsGap g) (rest : List Char) :
    ofLine (g ++ rest) = { ofLine rest with lead := g ++ (ofLine rest).lead } := by
  induction g with
  | nil => rfl
  | cons c g ih =>
    have hc := hg c (by simp)
    have ih := ih fun d hd => hg d (by simp [hd])
    simp [ih, push, hc]

/-- A word in front of a gap, or of nothing, is a part of its own. -/
theorem ofLine_word_append {w : List Char} (hw : IsWord w) {rest : List Char}
    (hrest : (ofLine rest).parts ≠ [] → (ofLine rest).lead ≠ []) :
    ofLine (w ++ rest) = ⟨[], (w, (ofLine rest).lead) :: (ofLine rest).parts⟩ := by
  obtain ⟨hne, hw⟩ := hw
  induction w with
  | nil => exact absurd rfl hne
  | cons c w ih =>
    have hc := hw c (by simp)
    cases w with
    | nil =>
      generalize hL : ofLine rest = L at hrest ⊢
      obtain ⟨lead, parts⟩ := L
      rw [List.singleton_append, ofLine_cons, hL]
      match lead, parts with
      | [], [] => simp [push, hc]
      | [], p :: ps => exact absurd rfl (hrest (by simp))
      | d :: lead, ps => simp [push, hc]
    | cons d w =>
      have ih := ih (by simp) fun e he => hw e (by simp [he])
      rw [List.cons_append, ofLine_cons, ih]
      simp [push, hc]

/-- A text of well-spaced parts is laid out as these parts. -/
theorem ofLine_partsText {ps : List (List Char × List Char)} (h : WellSpaced ps) :
    ofLine (partsText ps) = ⟨[], ps⟩ := by
  induction ps with
  | nil => rfl
  | cons p ps ih =>
    obtain ⟨w, g⟩ := p
    obtain ⟨hw, hg, hne, hps⟩ := h
    have htail : ofLine (g ++ partsText ps) = ⟨g, ps⟩ := by
      rw [ofLine_gap_append hg, ih hps]
      simp
    rw [partsText_cons, ofLine_word_append hw (by simpa [htail] using hne), htail]

/-- **A line has exactly one layout**, and `ofLine` computes it. -/
theorem of_iff_eq_ofLine {L : Layout} {line : List Char} : L.Of line ↔ L = ofLine line := by
  refine ⟨fun h => ?_, fun h => ?_⟩
  · obtain ⟨rfl, hlead, hparts⟩ := h
    rw [text, ofLine_gap_append hlead, ofLine_partsText hparts]
    simp
  · subst h
    exact of_ofLine line

end Layout

/-! ## The cursor reads the words of the layout -/

/-- The characters up to the next gap are the word. -/
theorem takeWhile_word_append {w rest : List Char} (hw : IsWord w) (hrest : StartsGap rest) :
    (w ++ rest).takeWhile (!isSeparator ·) = w := by
  rw [List.takeWhile_append_of_pos (by simpa using hw.2)]
  cases rest with
  | nil => simp
  | cons c rest => simp [hrest c rfl]

/-- What follows the characters of the word begins with the next gap. -/
theorem dropWhile_word_append {w rest : List Char} (hw : IsWord w) (hrest : StartsGap rest) :
    (w ++ rest).dropWhile (!isSeparator ·) = rest := by
  rw [List.dropWhile_append_of_pos (by simpa using hw.2)]
  cases rest with
  | nil => rfl
  | cons c rest => simp [hrest c rfl]

/-- What follows a word of a well-spaced sequence starts with a separator. -/
theorem startsGap_of_wellSpaced {g : List Char} {ps : List (List Char × List Char)}
    (hg : IsGap g) (hne : ps ≠ [] → g ≠ []) : StartsGap (g ++ Layout.partsText ps) := by
  intro c hc
  match g, ps with
  | [], [] => simp at hc
  | [], p :: ps => exact absurd rfl (hne (by simp))
  | d :: g, ps =>
    obtain rfl : d = c := by simpa using hc
    exact hg d (by simp)

namespace Cursor

/-- Only separators are left, so no token is. -/
theorem next_gap {g : List Char} (hg : IsGap g) (position : Nat) :
    next ⟨g, position⟩ = (none, ⟨[], position + byteLength g⟩) := by
  have hdrop : g.dropWhile isSeparator = [] := by
    rw [← List.append_nil g, List.dropWhile_append_of_pos hg, List.dropWhile_nil]
  have htake : g.takeWhile isSeparator = g := by
    rw [← List.append_nil g, List.takeWhile_append_of_pos hg, List.takeWhile_nil]
  simp [next, hdrop, htake]

/-- The next token is the word after the gap, and the cursor stops right behind it. -/
theorem next_gap_word {g w rest : List Char} (hg : IsGap g) (hw : IsWord w)
    (hrest : StartsGap rest) (position : Nat) :
    next ⟨g ++ (w ++ rest), position⟩ =
      (some ⟨w, position + byteLength g⟩, ⟨rest, position + byteLength g + byteLength w⟩) := by
  obtain ⟨c, v, rfl⟩ := List.exists_cons_of_ne_nil hw.1
  have hc : isSeparator c = false := hw.2 c (by simp)
  have htake : (g ++ (c :: v ++ rest)).takeWhile isSeparator = g := by
    rw [List.takeWhile_append_of_pos hg]
    simp [hc]
  have hdrop : (g ++ (c :: v ++ rest)).dropWhile isSeparator = c :: (v ++ rest) := by
    rw [List.dropWhile_append_of_pos hg]
    simp [hc]
  have hword := takeWhile_word_append hw hrest
  have hbehind := dropWhile_word_append hw hrest
  rw [List.cons_append] at hword hbehind
  simp only [next, htake, hdrop, hword, hbehind]

/-- A cursor that finds nothing has no tokens left. -/
theorem tokens_of_next_none {c c' : Cursor} (h : c.next = (none, c')) : c.tokens = [] := by
  rw [tokens]
  split
  · rename_i h'
    rw [h] at h'
    cases h'
  · rfl

/-- A cursor that finds a token has this one and those that it finds afterwards. -/
theorem tokens_of_next_some {c c' : Cursor} {t : Token} (h : c.next = (some t, c')) :
    c.tokens = t :: c'.tokens := by
  rw [tokens]
  split
  · rename_i h'
    rw [h] at h'
    cases h'
    rfl
  · rename_i h'
    rw [h] at h'
    cases h'

/-- From the start of a gap, the cursor reads the words that follow it in order. -/
theorem tokens_gap_partsText {ps : List (List Char × List Char)} (hps : Layout.WellSpaced ps)
    {g : List Char} (hg : IsGap g) (position : Nat) :
    (tokens ⟨g ++ Layout.partsText ps, position⟩).map Token.text = ps.map Prod.fst := by
  induction ps generalizing g position with
  | nil =>
    rw [Layout.partsText_nil, List.append_nil, tokens_of_next_none (next_gap hg position)]
    rfl
  | cons p ps ih =>
    obtain ⟨w, g'⟩ := p
    obtain ⟨hw, hg', hne, hps⟩ := hps
    have hnext := next_gap_word hg hw (startsGap_of_wellSpaced hg' hne) position
    rw [Layout.partsText_cons, tokens_of_next_some hnext, List.map_cons, List.map_cons, ih hps hg']

end Cursor

/-- **The words of a line are those of its layout.** -/
theorem words_eq_of_layout {L : Layout} {line : List Char} (h : L.Of line) :
    words line = L.words := by
  obtain ⟨rfl, hlead, hparts⟩ := h
  exact Cursor.tokens_gap_partsText hparts hlead 0

/-! ## Commas stand in gaps -/

/-- Words hold no separators. -/
theorem notMem_of_isWord {c : Char} {w : List Char} (hw : IsWord w) (hc : isSeparator c = true) :
    c ∉ w := by
  intro hmem
  rw [hw.2 c hmem] at hc
  cases hc

/-- Words hold no commas. -/
theorem comma_notMem_of_isWord {w : List Char} (hw : IsWord w) : ',' ∉ w :=
  notMem_of_isWord hw (by decide)

/-- The commas of a line without its first gap are those of the gaps behind the words. -/
theorem count_comma_partsText {ps : List (List Char × List Char)} (h : Layout.WellSpaced ps) :
    (Layout.partsText ps).count ',' = (ps.map fun p => p.2.count ',').sum := by
  induction ps with
  | nil => rfl
  | cons p ps ih =>
    obtain ⟨hw, -, -, hps⟩ := h
    simp [List.count_eq_zero.2 (comma_notMem_of_isWord hw), ih hps]

/-- **The commas of a line are those of its gaps.** -/
theorem count_comma_of_layout {L : Layout} {line : List Char} (h : L.Of line) :
    line.count ',' = (L.gaps.map (List.count ',')).sum := by
  obtain ⟨rfl, -, hparts⟩ := h
  simp [Layout.text, Layout.gaps, count_comma_partsText hparts, Function.comp_def]

example : (Layout.ofLine " a,, bc".toList).gaps = [" ".toList, ",, ".toList, []] := by
  decide +kernel

end SetCalculator
