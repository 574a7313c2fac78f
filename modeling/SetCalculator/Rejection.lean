import SetCalculator.Keyword

/-!
# Rejections

A line that is no command is rejected for exactly one reason, the first violation that the checks
meet. `Rejection.message` is what the user reads.
-/

namespace SetCalculator

/-- Why a line was rejected. -/
inductive Rejection where
  /-- A comma before the keyword. -/
  | leadingComma
  /-- A comma between the keyword and the first operand. -/
  | commaAfterKeyword
  /-- Two commas with nothing between them. -/
  | consecutiveCommas
  /-- A comma after the last operand. -/
  | trailingComma
  /-- Fewer commas than the words of the line need. -/
  | missingComma
  /-- The first word is no keyword. -/
  | unknownOperation
  /-- The keyword does not take this many operands. -/
  | wrongOperandCount (keyword : Keyword)
  /-- An operand that should name a register does not. -/
  | invalidRegister
  /-- An operand that should be a number is not an integer. -/
  | notAnInteger
  /-- A number that cannot be a member. -/
  | outOfRange
  /-- The numbers do not end with the terminator. -/
  | missingTerminator
  deriving DecidableEq, Repr

/-- The text of a rejection. -/
def Rejection.message : Rejection → String
  | leadingComma => "Comma before the operation."
  | commaAfterKeyword => "Comma after the operation."
  | consecutiveCommas => "Two or more consecutive commas."
  | trailingComma => "Comma after the last operand."
  | missingComma => "Missing comma."
  | unknownOperation => "Invalid operation."
  | wrongOperandCount keyword => keyword.arityMessage
  | invalidRegister => "Invalid set name."
  | notAnInteger => "Set members should be integers only."
  | outOfRange => "Set members should only be integers in the range 0-127."
  | missingTerminator => "A read_set command should be terminated with a -1."

end SetCalculator
