import SetCalculator.MemberSet.Algebra

/-!
# Operation keywords

A command begins with a keyword that says what it does. This module holds what the user is told of
each: how it is written, what it does, and how many operands it takes.
-/

namespace SetCalculator

/-- The first word of a command. -/
inductive Keyword where
  /-- Fill a register. -/
  | read
  /-- Show a register. -/
  | print
  /-- Combine two registers into a third. -/
  | combine (op : SetOperation)
  /-- End the session. -/
  | stop
  deriving DecidableEq, Repr

namespace Keyword

/-- The keywords, in the order in which they are listed to the user. -/
def all : List Keyword := [read, print] ++ SetOperation.all.map combine ++ [stop]

/-- The keyword as it is written. -/
def text : Keyword → String
  | read => "read_set"
  | print => "print_set"
  | combine .union => "union_set"
  | combine .intersection => "intersect_set"
  | combine .difference => "sub_set"
  | combine .symmetricDifference => "symdiff_set"
  | stop => "stop"

/-- The keyword that is written exactly so. -/
def ofText? (word : List Char) : Option Keyword :=
  all.find? fun k => k.text.toList = word

/-- How a command with this keyword is written. -/
def usage : Keyword → String
  | read => "read_set <set>, <number>, <number>, ..., -1"
  | print => "print_set <set>"
  | combine op => (combine op).text ++ " <set>, <set>, <set>"
  | stop => "stop"

/-- What a command with this keyword does. -/
def description : Keyword → String
  | read => "Fills the set with the given numbers."
  | print => "Prints the set."
  | combine op => "Sets the third set to the " ++ op.name ++ " of the first two sets."
  | stop => "Ends the program."

/-- The complaint about a wrong number of operands. -/
def arityMessage : Keyword → String
  | read => "read_set requires a set name followed by numbers."
  | print => "print_set only accepts a single operand."
  | combine _ => "Set operations only accept exactly 3 operands."
  | stop => "stop does not accept any operands."

/-- The number of register names among the operands; only `read` takes more operands than these. -/
def registerCount : Keyword → Nat
  | read => 1
  | print => 1
  | combine _ => 3
  | stop => 0

/-- The list of the keywords is complete. -/
theorem mem_all (k : Keyword) : k ∈ all := by
  cases k with
  | combine op => cases op <;> decide
  | _ => decide

@[simp] theorem ofText?_text (k : Keyword) : ofText? k.text.toList = some k := by
  cases k with
  | combine op => cases op <;> decide +kernel
  | _ => decide +kernel

/-- A word is read as a keyword exactly if it is the text of that keyword. -/
theorem ofText?_eq_some_iff {word : List Char} {k : Keyword} :
    ofText? word = some k ↔ word = k.text.toList := by
  constructor
  · intro h
    have := List.find?_some h
    simpa using (of_decide_eq_true this).symm
  · rintro rfl
    exact ofText?_text k

end Keyword

end SetCalculator
