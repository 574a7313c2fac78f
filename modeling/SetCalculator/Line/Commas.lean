import SetCalculator.Line.Token
import SetCalculator.Line.Normal
import SetCalculator.Rejection

/-!
# Commas

One comma belongs between each pair of operands, and none anywhere else. Where the commas stand is
checked in one scan over the normal form of the line: none before the keyword, none up to the first
operand, no two together, none at the end. The scan stops at the first comma that stands wrong.
Whether there are enough of them is checked on the line itself, by counting: a keyword alone needs
none, and `n` words need `n - 2`.
-/

namespace SetCalculator

open Text

/-- Scans what is left of a normal form, once `blankSeen` tells whether its blank has passed, and
`commaPending` whether the character before is a comma. -/
def scanCommas (blankSeen commaPending : Bool) : List Char → Except Rejection Unit
  | [] => if commaPending then .error .trailingComma else .ok ()
  | c :: cs =>
    if c = ',' then
      if !blankSeen then .error .commaAfterKeyword
      else if commaPending then .error .consecutiveCommas
      else scanCommas blankSeen true cs
    else if isBlank c then
      if cs.head? = some ',' then .error .commaAfterKeyword
      else scanCommas true commaPending cs
    else scanCommas blankSeen false cs

/-- Checks where the commas of a normal form stand. -/
def checkPlacement (normal : List Char) : Except Rejection Unit :=
  if normal.head? = some ',' then .error .leadingComma
  else scanCommas false false normal

/-- Whether the line has as many commas as its words need. -/
def commasMatchWords (line : List Char) : Bool :=
  (words line).length = 1 || line.count ',' + 2 = (words line).length

/-- Checks the commas of a line that is not blank. -/
def checkCommas (line : List Char) : Except Rejection Unit := do
  checkPlacement (normalize line)
  if commasMatchWords line then .ok () else .error .missingComma

/-! ## What the scan passes over -/

/-- A run that holds neither a comma nor a blank settles a comma before it. -/
theorem scanCommas_append_of_not_separator {run rest : List Char} (hne : run ≠ [])
    (h : ∀ c ∈ run, isSeparator c = false) (blankSeen commaPending : Bool) :
    scanCommas blankSeen commaPending (run ++ rest) = scanCommas blankSeen false rest := by
  induction run generalizing commaPending with
  | nil => exact absurd rfl hne
  | cons c run ih =>
    have hc : c ≠ ',' ∧ isBlank c = false := by simpa [isSeparator] using h c (by simp)
    have hstep : scanCommas blankSeen commaPending (c :: run ++ rest) =
        scanCommas blankSeen false (run ++ rest) := by
      simp [scanCommas, hc]
    rw [hstep]
    cases run with
    | nil => rfl
    | cons d run => exact ih (by simp) (fun e he => h e (by simp [he])) false

end SetCalculator
