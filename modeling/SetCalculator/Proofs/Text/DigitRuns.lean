import Mathlib.Data.List.Basic
import SetCalculator.Proofs.Text.Numeral

/-!
# The numbers in a text

A text is cut at every character that is no digit; the pieces that are not empty are its maximal
runs of digits, and read in decimal they are the numbers in it (`numbersIn`). Everything about the
runs follows from one equation: they can be taken on the two sides of a break
(`digitRuns_append_cons`). So a row of texts with breaks between them has the runs of the texts
(`digitRuns_intercalate`).

A number is written by one run (`digitRuns_toString`), and only zero is written with a zero in front
(`eq_singleton_of_head?_toDigits`).
-/

namespace SetCalculator.Text

/-- The maximal runs of digits of a text. -/
def digitRuns (text : List Char) : List (List Char) :=
  (text.splitOnP (!·.isDigit)).filter (· ≠ [])

/-- The numbers that the runs of digits of a text denote. -/
def numbersIn (text : List Char) : List Nat := (digitRuns text).map (Nat.ofDigitChars 10 · 0)

/-! ## Runs at breaks -/

@[simp] theorem digitRuns_nil : digitRuns [] = [] := rfl

/-- **Runs end at a break.** -/
theorem digitRuns_append_cons {c : Char} (hc : c.isDigit = false) (front back : List Char) :
    digitRuns (front ++ c :: back) = digitRuns front ++ digitRuns back := by
  rw [digitRuns, List.splitOnP_append_cons front back (by simp [hc]), List.filter_append]
  rfl

/-- A break in front of a text belongs to no run. -/
theorem digitRuns_cons {c : Char} (hc : c.isDigit = false) (text : List Char) :
    digitRuns (c :: text) = digitRuns text :=
  digitRuns_append_cons hc [] text

/-- A break behind a text belongs to no run. -/
theorem digitRuns_concat {c : Char} (hc : c.isDigit = false) (text : List Char) :
    digitRuns (text ++ [c]) = digitRuns text := by
  rw [digitRuns_append_cons hc, digitRuns_nil, List.append_nil]

/-- A text of digits is one run. -/
theorem digitRuns_of_isDigit {ds : List Char} (hne : ds ≠ []) (h : ∀ c ∈ ds, c.isDigit = true) :
    digitRuns ds = [ds] := by
  rw [digitRuns, List.splitOnP_eq_singleton fun c hc => by simp [h c hc]]
  simp [hne]

/-- **Texts with breaks between them** have the runs that each of them has. -/
theorem digitRuns_intercalate {b b' : Char} (hb : b.isDigit = false) (hb' : b'.isDigit = false)
    (texts : List (List Char)) :
    digitRuns ([b, b'].intercalate texts) = texts.flatMap digitRuns := by
  induction texts with
  | nil => rfl
  | cons text texts ih =>
    cases texts with
    | nil => rw [List.intercalate_singleton, List.flatMap_singleton]
    | cons text' texts =>
      rw [List.intercalate_cons_cons, List.append_assoc, List.cons_append, List.cons_append,
        digitRuns_append_cons hb, List.nil_append, digitRuns_cons hb', ih]
      rfl

/-! ## Numbers in decimal -/

/-- A number is written by one run. -/
theorem digitRuns_toString (n : Nat) : digitRuns (toString n).toList = [Nat.toDigits 10 n] := by
  have hne : (toString n).toList ≠ [] := by
    rw [toList_toString]
    exact Nat.toDigits_ne_nil
  rw [digitRuns_of_isDigit hne fun _ => isDigit_of_mem_toString, toList_toString]

/-- Runs that are the digits of numbers denote these numbers. -/
theorem numbersIn_of_digitRuns {text : List Char} {ns : List Nat}
    (h : digitRuns text = ns.map (Nat.toDigits 10)) : numbersIn text = ns := by
  rw [numbersIn, h, List.map_map]
  exact (List.map_congr_left fun n _ => Nat.ofDigitChars_ten_toDigits).trans (List.map_id ns)

/-- Only zero is written with a zero in front, and by nothing else. -/
theorem eq_singleton_of_head?_toDigits {n : Nat} (h : (Nat.toDigits 10 n).head? = some '0') :
    Nat.toDigits 10 n = ['0'] := by
  induction n using Nat.strongRecOn with
  | ind n ih =>
    rw [Nat.toDigits_eq_if (by decide)] at h ⊢
    split at h
    · next hsmall => simpa [hsmall] using h
    · next hlarge =>
      -- the digits in front are those of a smaller number, which is not zero
      rw [List.head?_append_of_ne_nil _ Nat.toDigits_ne_nil] at h
      have hzero : n / 10 = 0 := by
        rw [← Nat.ofDigitChars_ten_toDigits (n := n / 10), ih (n / 10) (by omega) h]
        rfl
      omega

end SetCalculator.Text
