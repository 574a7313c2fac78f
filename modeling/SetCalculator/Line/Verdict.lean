import SetCalculator.Line.Commas
import SetCalculator.Line.Operands

/-!
# Verdicts

A line is skipped if it is blank, and otherwise accepted or rejected as a whole before anything is
done. The commas are checked first, then the keyword, then its operands; what the registers hold
has no say in it.
-/

namespace SetCalculator

open Text

/-- What becomes of a line that is not rejected. -/
inductive Verdict where
  /-- The line is blank and asks for nothing. -/
  | skip
  /-- The line is a well-formed command with this keyword. -/
  | accept (keyword : Keyword)
  deriving DecidableEq, Repr

/-- The keyword with which the words begin. -/
def keyword? (words : List (List Char)) : Option Keyword := words.head?.bind Keyword.ofText?

/-- Judges a line. -/
def Verdict.ofLine (line : List Char) : Except Rejection Verdict :=
  if isBlankLine line then .ok .skip
  else do
    checkCommas line
    match keyword? (words line) with
    | none => .error .unknownOperation
    | some keyword =>
      checkOperands keyword (words line).tail
      .ok (.accept keyword)

end SetCalculator
