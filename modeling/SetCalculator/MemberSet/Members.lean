import SetCalculator.MemberSet.Basic

/-!
# Listing the members

The members of a set are listed in ascending order by a position that walks over the universe. At
the start of a section whose eight bits are all zero it goes to the next section at once; anywhere
else it looks at one number at a time.
-/

namespace SetCalculator.MemberSet

/-- The first member at or after a position, if there is one, and the position after it. -/
def next (s : MemberSet) (position : Nat) : Option Nat × Nat :=
  if h : position < 128 then
    if position % 8 = 0 ∧ s.sectionOf position h = 0 then s.next (position + 8)
    else if s.contains position then (some position, position + 1)
    else s.next (position + 1)
  else (none, position)
termination_by 128 - position

/-- The first `n` members at or after a position, or fewer if the set has no more. -/
def takeFrom (s : MemberSet) : Nat → Nat → List Nat
  | 0, _ => []
  | n + 1, position =>
    match s.next position with
    | (some m, position) => m :: s.takeFrom n position
    | (none, _) => []

/-- The first `n` members in ascending order. -/
def take (s : MemberSet) (n : Nat) : List Nat := s.takeFrom n 0

/-- All members in ascending order. -/
def toList (s : MemberSet) : List Nat := s.take universeSize

@[simp] theorem length_takeFrom_le (s : MemberSet) (n position : Nat) :
    (s.takeFrom n position).length ≤ n := by
  induction n generalizing position with
  | zero => simp [takeFrom]
  | succ n ih =>
    unfold takeFrom
    split
    · simpa using ih _
    · simp

example : (ofList [127, 3, 10, 3, 200]).toList = [3, 10, 127] := by decide +kernel
example : (ofList [9, 8, 7]).take 2 = [7, 8] := by decide +kernel

end SetCalculator.MemberSet
