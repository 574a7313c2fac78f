import SetCalculator.Register
import SetCalculator.Rejection
import SetCalculator.Text.Integer

/-!
# Operands

What may follow the keyword: for most of them a fixed number of register names, and for `read` one
name and then the members, closed by a terminator that is no member itself. The operands are
checked from left to right, and a missing or superfluous one counts as a violation at its place.
-/

namespace SetCalculator

open Text

/-- The number that closes the members. -/
def terminator : Int := -1

/-- Whether a number can be a member. -/
def isMember (value : Int) : Bool := 0 ≤ value && value < MemberSet.universeSize

/-- Checks that a word names a register. -/
def checkRegister (word : List Char) : Except Rejection Unit :=
  if (Register.ofName? word).isSome then .ok () else .error .invalidRegister

/-- Checks that there are exactly `count` words and that each names a register. -/
def checkRegisters (keyword : Keyword) : (count : Nat) → List (List Char) → Except Rejection Unit
  | 0, [] => .ok ()
  | 0, _ :: _ => .error (.wrongOperandCount keyword)
  | _ + 1, [] => .error (.wrongOperandCount keyword)
  | count + 1, word :: words => do
    checkRegister word
    checkRegisters keyword count words

/-- Checks a word that is not the last of the numbers: it must be a member. -/
def checkMember (word : List Char) : Except Rejection Unit :=
  match integer? word with
  | none => .error .notAnInteger
  | some value => if isMember value then .ok () else .error .outOfRange

/-- Checks the last of the numbers: it must be the terminator. -/
def checkTerminator (word : List Char) : Except Rejection Unit :=
  match integer? word with
  | none => .error .notAnInteger
  | some value =>
    if MemberSet.universeSize ≤ value then .error .outOfRange
    else if value = terminator then .ok ()
    else .error .missingTerminator

/-- Checks the numbers after the register: members, and then the terminator. -/
def checkMembers : List (List Char) → Except Rejection Unit
  | [] => .error .missingTerminator
  | [word] => checkTerminator word
  | word :: words => do
    checkMember word
    checkMembers words

/-- Checks the words that follow the keyword. -/
def checkOperands (keyword : Keyword) (operands : List (List Char)) : Except Rejection Unit :=
  match keyword, operands with
  | .read, [] => .error (.wrongOperandCount .read)
  | .read, word :: words => do
    checkRegister word
    checkMembers words
  | keyword, operands => checkRegisters keyword keyword.registerCount operands

end SetCalculator
