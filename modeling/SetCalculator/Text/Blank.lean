/-!
# Blank characters

The blank characters are those of the Unicode property `White_Space`. They separate words, and
they are all that trimming removes. The class is wider than the six characters of
`Char.isWhitespace` and narrower than what looks empty: U+001C to U+001F, U+200B and U+FEFF are
not in it.
-/

namespace SetCalculator.Text

/-- Whether a code point lies in one of the closed intervals. -/
def inIntervals (intervals : List (Nat × Nat)) (point : Nat) : Bool :=
  intervals.any fun i => i.1 ≤ point && point ≤ i.2

/-- The code points of `White_Space`, as closed intervals in ascending order. -/
def blankIntervals : List (Nat × Nat) :=
  [(0x09, 0x0D), (0x20, 0x20), (0x85, 0x85), (0xA0, 0xA0), (0x1680, 0x1680), (0x2000, 0x200A),
   (0x2028, 0x2029), (0x202F, 0x202F), (0x205F, 0x205F), (0x3000, 0x3000)]

/-- Whether a character is blank. -/
def isBlank (c : Char) : Bool := inIntervals blankIntervals c.toNat

/-- Whether a line holds blanks alone; the empty line does. -/
def isBlankLine (line : List Char) : Bool := line.all isBlank

/-- The text without the blanks at its two ends. -/
def trim (text : List Char) : List Char :=
  ((text.dropWhile isBlank).reverse.dropWhile isBlank).reverse

example : isBlank '\u000b' ∧ isBlank '\u0085' ∧ isBlank '\u3000' := by decide
example : ¬ isBlank '\u001f' ∧ ¬ isBlank '\u200b' ∧ ¬ isBlank '\ufeff' := by decide

/-- The class has 25 members. -/
example : (blankIntervals.map fun i => i.2 + 1 - i.1).sum = 25 := by decide

/-! ## Trimming -/

@[simp] theorem trim_nil : trim [] = [] := rfl

/-- A line is blank exactly if nothing is left of it after trimming. -/
theorem trim_eq_nil_iff {text : List Char} : trim text = [] ↔ isBlankLine text := by
  have key : ∀ l : List Char, l.dropWhile isBlank = [] ↔ ∀ c ∈ l, isBlank c := by
    intro l
    induction l with
    | nil => simp
    | cons c l ih => by_cases h : isBlank c <;> simp [h, ih]
  simp only [trim, isBlankLine, List.reverse_eq_nil_iff, List.all_eq_true, key, List.mem_reverse]
  constructor
  · intro h
    refine (key text).1 ?_
    cases hd : text.dropWhile isBlank with
    | nil => rfl
    | cons c l =>
      have hc := h c (by simp [hd])
      have : (text.dropWhile isBlank).head? = some c := by simp [hd]
      have := List.head?_dropWhile_not isBlank text
      simp [hd, hc] at this
  · intro h c hc
    exact h c ((List.dropWhile_sublist isBlank).mem hc)

/-- Trimming adds no characters. -/
theorem mem_of_mem_trim {text : List Char} {c : Char} (h : c ∈ trim text) : c ∈ text := by
  have hback := (List.dropWhile_sublist isBlank).mem (List.mem_reverse.1 h)
  exact (List.dropWhile_sublist isBlank).mem (List.mem_reverse.1 hback)

/-- A blank at the end makes no difference to what is left. -/
theorem trim_concat {c : Char} (hc : isBlank c = true) (text : List Char) :
    trim (text ++ [c]) = trim text := by
  rw [trim, List.dropWhile_append]
  cases h : text.dropWhile isBlank with
  | nil => simp [trim, h, hc]
  | cons d ds => simp [trim, h, hc]

/-- What is left does not end with a blank. -/
theorem not_isBlank_of_getLast?_trim {text : List Char} {c : Char}
    (h : (trim text).getLast? = some c) : isBlank c = false := by
  rw [trim, List.getLast?_reverse] at h
  have := List.head?_dropWhile_not isBlank (text.dropWhile isBlank).reverse
  rw [h] at this
  simpa using this

/-- What is left does not begin with a blank. -/
theorem not_isBlank_of_head?_trim {text : List Char} {c : Char}
    (h : (trim text).head? = some c) : isBlank c = false := by
  obtain ⟨rest, hrest⟩ : trim text <+: text.dropWhile isBlank := by
    rw [← List.reverse_suffix, trim, List.reverse_reverse]
    exact List.dropWhile_suffix isBlank
  have hhead := List.head?_dropWhile_not isBlank text
  rw [← hrest, List.head?_append, h] at hhead
  exact hhead

/-- Nothing is dropped in front of a text that does not begin with a blank. -/
theorem dropWhile_isBlank_eq_self {text : List Char}
    (h : ∀ c, text.head? = some c → isBlank c = false) : text.dropWhile isBlank = text := by
  cases text with
  | nil => rfl
  | cons c cs => rw [List.dropWhile_cons, h c rfl, if_neg Bool.false_ne_true]

/-- Trimming twice is trimming once. -/
@[simp] theorem trim_trim (text : List Char) : trim (trim text) = trim text := by
  have hfront : (trim text).dropWhile isBlank = trim text :=
    dropWhile_isBlank_eq_self fun _ => not_isBlank_of_head?_trim
  have hback : (trim text).reverse.dropWhile isBlank = (trim text).reverse := by
    apply dropWhile_isBlank_eq_self
    intro c hc
    rw [List.head?_reverse] at hc
    exact not_isBlank_of_getLast?_trim hc
  calc trim (trim text)
      = (((trim text).dropWhile isBlank).reverse.dropWhile isBlank).reverse := rfl
    _ = trim text := by rw [hfront, hback, List.reverse_reverse]

end SetCalculator.Text
