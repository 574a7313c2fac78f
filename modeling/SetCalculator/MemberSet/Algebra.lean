import SetCalculator.MemberSet.Basic

/-!
# Set operations

The four binary operations work on whole sections, so that each of them takes 16 steps whatever the
members are. Membership in the result is the matching connective of the memberships in the
operands.
-/

namespace SetCalculator

namespace MemberSet

/-- Combines the sections of two sets pairwise. -/
def zipWith (f : Section → Section → Section) (s t : MemberSet) : MemberSet :=
  ⟨Vector.zipWith f s.sections t.sections⟩

/-- The members of either set. -/
def union (s t : MemberSet) : MemberSet := zipWith (· ||| ·) s t

/-- The members of both sets. -/
def intersection (s t : MemberSet) : MemberSet := zipWith (· &&& ·) s t

/-- The members of the first set that are not in the second. -/
def difference (s t : MemberSet) : MemberSet := zipWith (fun a b => a &&& ~~~b) s t

/-- The members of exactly one of the sets. -/
def symmetricDifference (s t : MemberSet) : MemberSet := zipWith (· ^^^ ·) s t

instance : OrOp MemberSet := ⟨union⟩
instance : AndOp MemberSet := ⟨intersection⟩
instance : Sub MemberSet := ⟨difference⟩
instance : XorOp MemberSet := ⟨symmetricDifference⟩

/-! ## Membership in the results -/

/-- A union holds what either set holds. -/
theorem contains_union (s t : MemberSet) (m : Nat) :
    (s.union t).contains m = (s.contains m || t.contains m) := by
  by_cases h : m < 128 <;> simp [contains, sectionOf, union, zipWith, h]

/-- An intersection holds what both sets hold. -/
theorem contains_intersection (s t : MemberSet) (m : Nat) :
    (s.intersection t).contains m = (s.contains m && t.contains m) := by
  by_cases h : m < 128 <;> simp [contains, sectionOf, intersection, zipWith, h]

/-- A difference holds what the first set holds and the second does not. -/
theorem contains_difference (s t : MemberSet) (m : Nat) :
    (s.difference t).contains m = (s.contains m && !t.contains m) := by
  by_cases h : m < 128
  · simp [contains, sectionOf, difference, zipWith, h, Nat.mod_lt]
  · simp [contains, h]

/-- A symmetric difference holds what exactly one of the sets holds. -/
theorem contains_symmetricDifference (s t : MemberSet) (m : Nat) :
    (s.symmetricDifference t).contains m = (s.contains m ^^ t.contains m) := by
  by_cases h : m < 128 <;> simp [contains, sectionOf, symmetricDifference, zipWith, h]

end MemberSet

/-- A binary operation on sets, as a value. -/
inductive SetOperation where
  | union
  | intersection
  | difference
  | symmetricDifference
  deriving DecidableEq, Repr

namespace SetOperation

/-- The operations, in the order in which they are listed to the user. -/
def all : List SetOperation := [union, intersection, difference, symmetricDifference]

/-- The result of the operation on two sets. -/
def apply : SetOperation → MemberSet → MemberSet → MemberSet
  | union => MemberSet.union
  | intersection => MemberSet.intersection
  | difference => MemberSet.difference
  | symmetricDifference => MemberSet.symmetricDifference

/-- The name of the operation in prose. -/
def name : SetOperation → String
  | union => "union"
  | intersection => "intersection"
  | difference => "difference"
  | symmetricDifference => "symmetric difference"

end SetOperation

end SetCalculator
