import SetCalculator.Command
import SetCalculator.Log.Record
import SetCalculator.Text.Quoted

/-!
# The log of a line

Every token that is read leaves a record, and so does every verdict. A line is read up to three
times, once to count its tokens, once to judge them and once to build the command. Judging stops at
the first violation, so its reading ends there: after the token in question, or one token later
among the numbers, where the next one must be seen to know which is the last.
-/

namespace SetCalculator

open Text Log

/-- The name of a rejection in the log. -/
def Rejection.label : Rejection → String
  | leadingComma => "CommaBeforeOperation"
  | commaAfterKeyword => "CommaAfterOperation"
  | consecutiveCommas => "ConsecutiveCommas"
  | trailingComma => "TrailingComma"
  | missingComma => "CommaCountMismatch"
  | unknownOperation => "UnknownOperation"
  | wrongOperandCount .read => "WrongOperandCount(ReadSet)"
  | wrongOperandCount .print => "WrongOperandCount(PrintSet)"
  | wrongOperandCount (.combine .union) => "WrongOperandCount(Combine(Union))"
  | wrongOperandCount (.combine .intersection) => "WrongOperandCount(Combine(Intersect))"
  | wrongOperandCount (.combine .difference) => "WrongOperandCount(Combine(Sub))"
  | wrongOperandCount (.combine .symmetricDifference) => "WrongOperandCount(Combine(SymDiff))"
  | wrongOperandCount .stop => "WrongOperandCount(Stop)"
  | invalidRegister => "InvalidRegisterName"
  | notAnInteger => "NonIntegerOperand"
  | outOfRange => "OperandOutOfRange"
  | missingTerminator => "MissingOrMisplacedTerminator"

/-- The record of a token that was read. -/
def Token.record (t : Token) : Record :=
  ⟨.trace, .tokens, "token", [("token", quote t.text), ("start", toString t.start)]⟩

/-- The record of a verdict. -/
def verdictRecord (line : List Char) : Except Rejection Verdict → Record
  | .ok .skip => ⟨.trace, .verdicts, "blank line", []⟩
  | .ok (.accept keyword) => ⟨.debug, .verdicts, "accepted", [("operation", keyword.text)]⟩
  | .error rejection =>
    ⟨.debug, .verdicts, "rejected", [("line", quote line), ("reason", rejection.label)]⟩

/-- Whether a token names a register. -/
def Token.namesRegister (t : Token) : Bool := (Register.ofName? t.text).isSome

/-- Whether a token denotes a member. -/
def Token.denotesMember (t : Token) : Bool := (integer? t.text).any isMember

/-- The tokens that are read to check `count` register names and the end after them. -/
def readRegisters (count : Nat) (operands : List Token) : List Token :=
  operands.take (((operands.take count).takeWhile Token.namesRegister).length + 1)

/-- The tokens that are read to check the numbers. -/
def readNumbers (numbers : List Token) : List Token :=
  numbers.take ((numbers.takeWhile Token.denotesMember).length + 2)

/-- The tokens that are read to check the operands. -/
def readOperands (keyword : Keyword) (operands : List Token) : List Token :=
  match keyword, operands with
  | .read, [] => []
  | .read, t :: ts => t :: if t.namesRegister then readNumbers ts else []
  | keyword, operands => readRegisters keyword.registerCount operands

/-- The tokens that are read to judge a line that is not blank, in the order of reading. -/
def readToJudge (line : List Char) : List Token :=
  let all := tokens line
  if (checkPlacement (normalize line)).isOk then
    if commasMatchWords line then
      all ++ all.take 1 ++ match keyword? (words line) with
        | none => []
        | some keyword => readOperands keyword all.tail
    else all
  else []

/-- The tokens that are read to build the command of an accepted line. -/
def readToBuild (keyword : Keyword) (line : List Char) : List Token :=
  match keyword with
  | .read => tokens line
  | keyword => (tokens line).take (1 + keyword.registerCount)

/-- The records of judging a line. -/
def judgingRecords (line : List Char) : List Record :=
  (if isBlankLine line then [] else (readToJudge line).map Token.record)
    ++ [verdictRecord line (Verdict.ofLine line)]

/-- The records of reading the command of a line. -/
def readingRecords (line : List Char) : List Record :=
  judgingRecords line ++ match Verdict.ofLine line with
    | .ok (.accept keyword) => (readToBuild keyword line).map Token.record
    | _ => []

end SetCalculator
