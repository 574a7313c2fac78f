import SetCalculator.MemberSet.Members

/-!
# Set text

A set is shown as its members in ascending order between braces. A comma stands between two
members, followed by a space, or by a line feed after every sixteenth member, so that no line holds
more than sixteen. The empty set is shown as a sentence. The length of the text is known from the
members alone, without building it.
-/

namespace SetCalculator.MemberSet

/-- The members on one line. -/
def membersPerLine : Nat := 16

/-- The text of the empty set. -/
def emptyText : String := "The set is empty."

/-- What stands before a member that `count` others precede. -/
def separator (count : Nat) : String :=
  if count % membersPerLine = 0 then ",\n" else ", "

/-- The members that follow `count` others, each after its separator. -/
def renderAfter : Nat → List Nat → String
  | _, [] => ""
  | count, m :: ms => separator count ++ toString m ++ renderAfter (count + 1) ms

/-- The members in braces. -/
def renderMembers : List Nat → String
  | [] => "\x7b\x7d"
  | m :: ms => "\x7b" ++ toString m ++ renderAfter 1 ms ++ "\x7d"

/-- The text that shows a set. -/
def render (s : MemberSet) : String :=
  if s.isEmpty then emptyText else renderMembers s.toList

instance : ToString MemberSet := ⟨render⟩

/-- The text of a set on one line, also of the empty one. -/
def inlineText (s : MemberSet) : String :=
  "\x7b" ++ String.intercalate ", " (s.toList.map toString) ++ "\x7d"

instance : Repr MemberSet := ⟨fun s _ => s.inlineText⟩

/-- The number of decimal digits of a number below 1000. -/
def digitCount (m : Nat) : Nat :=
  if m ≤ 9 then 1 else if m ≤ 99 then 2 else 3

/-- The length of `render s` in bytes: the braces, the digits, and two for every separator. -/
def renderedLength (s : MemberSet) : Nat :=
  if s.size = 0 then emptyText.utf8ByteSize
  else 2 + (s.toList.map digitCount).foldr (· + ·) 0 + 2 * (s.size - 1)

@[simp] theorem renderAfter_nil (count : Nat) : renderAfter count [] = "" := rfl

/-- Every separator takes two bytes, whether it ends the line or not. -/
theorem utf8ByteSize_separator (count : Nat) : (separator count).utf8ByteSize = 2 := by
  unfold separator
  split <;> rfl

example : (ofList [3, 1, 2]).render = "\x7b1, 2, 3\x7d" := by decide +kernel

end SetCalculator.MemberSet
