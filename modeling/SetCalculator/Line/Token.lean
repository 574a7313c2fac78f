import SetCalculator.Text.Blank

/-!
# Tokens

A line is a sequence of characters. Its tokens are the maximal runs of characters that are neither
a comma nor blank, so a token is never empty and never holds a separator. Where the commas stand is
no matter of the tokens and is checked apart.

A cursor reads one token at a time and knows how many bytes of the line, in UTF-8, lie behind it.
-/

namespace SetCalculator

open Text

/-- Whether a character separates tokens. -/
def isSeparator (c : Char) : Bool := c == ',' || isBlank c

/-- The length of a text in UTF-8. -/
def byteLength (text : List Char) : Nat := text.foldr (fun c length => c.utf8Size + length) 0

/-- A maximal run of characters that are no separators. -/
structure Token where
  /-- The characters of the run. -/
  text : List Char
  /-- The number of bytes of the line before the run. -/
  start : Nat
  deriving DecidableEq, Repr

/-- A place in a line from which tokens are read. -/
structure Cursor where
  /-- What is left of the line. -/
  rest : List Char
  /-- The number of bytes of the line before `rest`. -/
  position : Nat
  deriving DecidableEq, Repr

namespace Cursor

/-- The cursor before the first character of a line. -/
def ofLine (line : List Char) : Cursor := ⟨line, 0⟩

/-- The next token, if there is one, and the cursor right after it. -/
def next (c : Cursor) : Option Token × Cursor :=
  let start := c.position + byteLength (c.rest.takeWhile isSeparator)
  match c.rest.dropWhile isSeparator with
  | [] => (none, ⟨[], start⟩)
  | text@(_ :: _) =>
    let run := text.takeWhile (!isSeparator ·)
    (some ⟨run, start⟩, ⟨text.dropWhile (!isSeparator ·), start + byteLength run⟩)

/-- Reading a token consumes at least one character. -/
theorem length_rest_next_lt {c c' : Cursor} {t : Token} (h : c.next = (some t, c')) :
    c'.rest.length < c.rest.length := by
  unfold next at h
  split at h
  · cases h
  · rename_i x xs hx
    cases h
    have hsep : isSeparator x = false := by
      have := List.head?_dropWhile_not isSeparator c.rest
      simpa [hx] using this
    have h1 : (xs.dropWhile (!isSeparator ·)).length ≤ xs.length :=
      (List.dropWhile_sublist _).length_le
    have h2 : (x :: xs).length ≤ c.rest.length := by
      rw [← hx]
      exact (List.dropWhile_sublist _).length_le
    simp only [List.dropWhile_cons, hsep, Bool.not_false, if_true]
    simp only [List.length_cons] at h2
    omega

/-- The tokens from the cursor to the end of the line. -/
def tokens (c : Cursor) : List Token :=
  match _h : c.next with
  | (some t, c') => t :: c'.tokens
  | (none, _) => []
termination_by c.rest.length
decreasing_by exact length_rest_next_lt _h

end Cursor

/-- The tokens of a line. -/
def tokens (line : List Char) : List Token := (Cursor.ofLine line).tokens

/-- The texts of the tokens of a line. -/
def words (line : List Char) : List (List Char) := (tokens line).map Token.text

example : words " a,, bc\td ".toList = ["a".toList, "bc".toList, "d".toList] := by decide +kernel
example : (tokens "é, x".toList).map Token.start = [0, 4] := by decide +kernel

end SetCalculator
