import SetCalculator.Line.Verdict

/-!
# Commands

A command is what an accepted line asks for. The line is judged first; the command is then built
from the words of the line, read once more from the start. Building has refusals of its own, and
that they never show on an accepted line is a fact about the two passes.
-/

namespace SetCalculator

open Text

/-- What a calculator can be asked to do. -/
inductive Command where
  /-- Replace the contents of `target` by the members; the terminator is not among them. -/
  | read (target : Register) (members : List Nat)
  /-- Show the contents of a register. -/
  | print (register : Register)
  /-- Store the result of an operation on `lhs` and `rhs` into `dest`. -/
  | combine (op : SetOperation) (lhs rhs dest : Register)
  /-- End the session. -/
  | stop
  deriving DecidableEq, Repr

namespace Command

/-- The keyword with which the command is written. -/
def keyword : Command → Keyword
  | read _ _ => .read
  | print _ => .print
  | combine op _ _ _ => .combine op
  | stop => .stop

/-- The register that a word names. -/
def buildRegister (word : Option (List Char)) : Except Rejection Register :=
  match word.bind Register.ofName? with
  | some register => .ok register
  | none => .error .invalidRegister

/-- The member that a word denotes. -/
def buildMember (word : List Char) : Except Rejection Nat :=
  match integer? word with
  | none => .error .notAnInteger
  | some value => if isMember value then .ok value.toNat else .error .outOfRange

/-- The command with the given keyword and the words that follow it. -/
def build (keyword : Keyword) (operands : List (List Char)) : Except Rejection Command :=
  match keyword with
  | .stop => .ok stop
  | .print => do
    let register ← buildRegister operands[0]?
    .ok (print register)
  | .combine op => do
    let lhs ← buildRegister operands[0]?
    let rhs ← buildRegister operands[1]?
    let dest ← buildRegister operands[2]?
    .ok (combine op lhs rhs dest)
  | .read => do
    let target ← buildRegister operands[0]?
    match operands.tail with
    | [] => .error .missingTerminator
    | numbers =>
      let members ← numbers.dropLast.mapM buildMember
      .ok (read target members)

/-- Reads a line: no command if it is blank, its command if it is accepted. -/
def ofLine (line : List Char) : Except Rejection (Option Command) := do
  match ← Verdict.ofLine line with
  | .skip => .ok none
  | .accept keyword =>
    let command ← build keyword (words line).tail
    .ok (some command)

end Command

end SetCalculator
