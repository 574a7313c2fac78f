import Mathlib.Data.List.Basic
import SetCalculator.Text.Quoted
import SetCalculator.Text.Terminal

/-!
# Texts on one line

A text without a line feed stays on the line on which it begins (`OneLine`). What is written of
untrusted text in the log is of this kind: a quoted text always (`oneLine_quote`), and a disarmed
one if the text itself is (`oneLine_disarm`), since no escape writes a line feed.

`endedLines` cuts a text in which every line is ended by a line feed into its lines. It takes the
lines that were written one after the other apart again (`endedLines_append`).
-/

namespace SetCalculator.Text

/-- The text has no line feed. -/
def OneLine (text : String) : Prop := '\n' ∉ text.toList

instance (text : String) : Decidable (OneLine text) :=
  inferInstanceAs (Decidable ('\n' ∉ text.toList))

@[simp] theorem oneLine_append {a b : String} : OneLine (a ++ b) ↔ OneLine a ∧ OneLine b := by
  simp only [OneLine, String.toList_append, List.mem_append, not_or]

/-- Texts on one line each make one line together. -/
theorem oneLine_join {texts : List String} (h : ∀ text ∈ texts, OneLine text) :
    OneLine (String.join texts) := by
  induction texts with
  | nil => decide
  | cons text texts ih =>
    obtain ⟨htext, htexts⟩ := List.forall_mem_cons.1 h
    rw [String.join_cons]
    exact oneLine_append.2 ⟨htext, ih htexts⟩

/-- A number is written by digits. -/
theorem oneLine_toString (n : Nat) : OneLine (toString n) := by
  intro h
  rw [Nat.toString_eq_repr, Nat.toList_repr] at h
  cases Nat.isDigit_of_mem_toDigits (by decide) (by decide) h

/-! ## Escapes -/

/-- No hexadecimal digit is a line feed. -/
theorem digitChar_ne_lineFeed {d : Nat} (h : d < 16) : Nat.digitChar d ≠ '\n' := by
  have hall : ∀ d ∈ List.range 16, Nat.digitChar d ≠ '\n' := by decide
  exact hall d (List.mem_range.2 h)

/-- No number has a line feed among its hexadecimal digits. -/
theorem lineFeed_notMem_toDigits (n : Nat) : '\n' ∉ Nat.toDigits 16 n := by
  induction n using Nat.strongRecOn with
  | ind n ih =>
    rw [Nat.toDigits_eq_if (by decide)]
    split
    · next h =>
      rw [List.mem_singleton]
      exact (digitChar_ne_lineFeed h).symm
    · rw [List.mem_append, List.mem_singleton, not_or]
      exact ⟨ih (n / 16) (by omega), (digitChar_ne_lineFeed (Nat.mod_lt n (by decide))).symm⟩

/-- An escape by the code point has no line feed. -/
theorem lineFeed_notMem_numericEscape (c : Char) : '\n' ∉ numericEscape c := by
  have hdigits := lineFeed_notMem_toDigits c.toNat
  simp [numericEscape, hdigits]

/-- An escape by two digits has no line feed. -/
theorem lineFeed_notMem_byteEscape {c : Char} (h : c.toNat < 0x80) : '\n' ∉ byteEscape c := by
  have hhigh : Nat.digitChar (c.toNat / 16) ≠ '\n' := digitChar_ne_lineFeed (by omega)
  have hlow : Nat.digitChar (c.toNat % 16) ≠ '\n' := digitChar_ne_lineFeed (by omega)
  simp [byteEscape, hhigh.symm, hlow.symm]

/-- A quoted character has no line feed, even if it is one. -/
theorem lineFeed_notMem_quoteChar (c : Char) : '\n' ∉ quoteChar c := by
  unfold quoteChar
  split
  · decide
  · decide
  · decide
  · decide
  · decide
  · decide
  · rename_i hfeed _ _ _
    split
    · exact lineFeed_notMem_numericEscape c
    · exact fun h => hfeed (List.mem_singleton.1 h).symm

/-- **A quoted text is on one line**, whatever the text is. -/
theorem oneLine_quote (text : List Char) : OneLine (quote text) := by
  rw [OneLine, quote, String.toList_ofList]
  simp [lineFeed_notMem_quoteChar]

/-- A disarmed text is on one line if the text is. -/
theorem oneLine_disarm {text : List Char} (h : '\n' ∉ text) :
    OneLine (String.ofList (disarm text)) := by
  rw [OneLine, String.toList_ofList]
  intro hmem
  obtain ⟨c, hc, hmem⟩ := List.mem_flatMap.1 hmem
  unfold disarmChar at hmem
  split at hmem
  · split at hmem
    · next hlow => exact lineFeed_notMem_byteEscape hlow hmem
    · exact lineFeed_notMem_numericEscape c hmem
  · rw [List.mem_singleton.1 hmem] at h
    exact h hc

/-! ## Lines that are ended -/

/-- The lines of a text in which a line feed follows each of them. -/
def endedLines (text : String) : List String :=
  ((text.toList.splitOn '\n').dropLast).map String.ofList

@[simp] theorem endedLines_empty : endedLines "" = [] := rfl

/-- What is written with an end of its own is cut off by itself. -/
theorem endedLines_append (text rest : String) :
    endedLines (text ++ "\n" ++ rest) =
      (text.toList.splitOn '\n').map String.ofList ++ endedLines rest := by
  have hlist : (text ++ "\n" ++ rest).toList = text.toList ++ '\n' :: rest.toList := by
    simp [String.toList_append]
  rw [endedLines, hlist, List.splitOn_append_cons_self,
    List.dropLast_append_of_ne_nil (List.splitOn_ne_nil _ _), List.map_append, endedLines]

/-- A text on one line is a line. -/
theorem endedLines_oneLine_append {text : String} (h : OneLine text) (rest : String) :
    endedLines (text ++ "\n" ++ rest) = text :: endedLines rest := by
  rw [endedLines_append, List.splitOn_eq_singleton h, List.map_singleton, String.ofList_toList]
  rfl

end SetCalculator.Text
