import Mathlib.Data.Finset.SymmDiff
import SetCalculator.Proofs.MemberSet.Size

/-!
# Laws of the set operations

On finite sets of members the operations are union, intersection, difference and symmetric
difference, although they never look at a member (`SetOperation.toFinset_apply`). A set is known by
its finite set (`toFinset_injective`), so an equation between finite sets is one between the
sections, too, and every law of the operations on finite sets is one of those on sections. The size
is the cardinality (`size_eq_card`), so what two sets share is counted once in their union and once
in their intersection (`size_or_add_size_and`).
-/

namespace SetCalculator.MemberSet

/-! ## Membership -/

variable {a b : MemberSet}

/-- A number is in a union if it is in either set. -/
theorem contains_union_iff {m : Nat} :
    (a.union b).contains m = true ↔ a.contains m = true ∨ b.contains m = true := by
  rw [contains_union, Bool.or_eq_true]

/-- A number is in an intersection if it is in both sets. -/
theorem contains_intersection_iff {m : Nat} :
    (a.intersection b).contains m = true ↔ a.contains m = true ∧ b.contains m = true := by
  rw [contains_intersection, Bool.and_eq_true]

/-- A number is in a difference if it is in the first set and not in the second. -/
theorem contains_difference_iff {m : Nat} :
    (a.difference b).contains m = true ↔ a.contains m = true ∧ ¬ b.contains m = true := by
  rw [contains_difference, Bool.and_eq_true, Bool.not_eq_true', Bool.not_eq_true]

/-- A number is in a symmetric difference if it is in exactly one of the sets. -/
theorem contains_symmetricDifference_iff {m : Nat} :
    (a.symmetricDifference b).contains m = true ↔
      Xor (a.contains m = true) (b.contains m = true) := by
  rw [contains_symmetricDifference, Bool.xor_iff_ne, ne_eq, Bool.eq_iff_iff, ← xor_iff_not_iff]

/-! ## The operators on finite sets -/

variable (a b) (c : MemberSet)

@[simp] theorem toFinset_or : (a ||| b).toFinset = a.toFinset ∪ b.toFinset :=
  SetOperation.toFinset_apply .union a b

@[simp] theorem toFinset_and : (a &&& b).toFinset = a.toFinset ∩ b.toFinset :=
  SetOperation.toFinset_apply .intersection a b

@[simp] theorem toFinset_sub : (a - b).toFinset = a.toFinset \ b.toFinset :=
  SetOperation.toFinset_apply .difference a b

@[simp] theorem toFinset_xor : (a ^^^ b).toFinset = symmDiff a.toFinset b.toFinset :=
  SetOperation.toFinset_apply .symmetricDifference a b

/-! ## Equations between sets -/

/-- Union is commutative. -/
protected theorem or_comm : a ||| b = b ||| a := by
  apply toFinset_injective
  rw [toFinset_or, toFinset_or, Finset.union_comm]

/-- Intersection is commutative. -/
protected theorem and_comm : a &&& b = b &&& a := by
  apply toFinset_injective
  rw [toFinset_and, toFinset_and, Finset.inter_comm]

/-- Symmetric difference is commutative. -/
protected theorem xor_comm : a ^^^ b = b ^^^ a := by
  apply toFinset_injective
  rw [toFinset_xor, toFinset_xor, symmDiff_comm]

/-- Union is associative. -/
protected theorem or_assoc : a ||| b ||| c = a ||| (b ||| c) := by
  apply toFinset_injective
  simp only [toFinset_or]
  exact Finset.union_assoc _ _ _

/-- Intersection is associative. -/
protected theorem and_assoc : a &&& b &&& c = a &&& (b &&& c) := by
  apply toFinset_injective
  simp only [toFinset_and]
  exact Finset.inter_assoc _ _ _

/-- Symmetric difference is associative. -/
protected theorem xor_assoc : a ^^^ b ^^^ c = a ^^^ (b ^^^ c) := by
  apply toFinset_injective
  simp only [toFinset_xor]
  exact symmDiff_assoc _ _ _

/-- Intersection distributes over union. -/
theorem and_or_distrib_left : a &&& (b ||| c) = (a &&& b) ||| (a &&& c) := by
  apply toFinset_injective
  simp only [toFinset_and, toFinset_or]
  exact Finset.inter_union_distrib_left _ _ _

/-- Intersection distributes over symmetric difference. -/
theorem and_xor_distrib_left : a &&& (b ^^^ c) = (a &&& b) ^^^ (a &&& c) := by
  apply toFinset_injective
  simp only [toFinset_and, toFinset_xor]
  exact inf_symmDiff_distrib_left _ _ _

/-- To remove the members of two sets is to remove those of either. -/
theorem sub_or : a - (b ||| c) = (a - b) &&& (a - c) := by
  apply toFinset_injective
  simp only [toFinset_sub, toFinset_or, toFinset_and]
  exact Finset.sdiff_union_distrib _ _ _

/-- The symmetric difference with a set is undone by another one with it. -/
theorem xor_xor_cancel_right : a ^^^ b ^^^ b = a := by
  apply toFinset_injective
  simp only [toFinset_xor]
  exact symmDiff_symmDiff_cancel_right _ _

/-- The symmetric difference holds what either set has over the other. -/
theorem xor_eq_sub_or_sub : a ^^^ b = (a - b) ||| (b - a) := by
  apply toFinset_injective
  simp only [toFinset_xor, toFinset_or, toFinset_sub]
  exact symmDiff_def _ _

/-- What both sets hold is counted in each of them, and in the union and in the intersection. -/
theorem size_or_add_size_and : (a ||| b).size + (a &&& b).size = a.size + b.size := by
  simp only [size_eq_card, toFinset_or, toFinset_and]
  exact Finset.card_union_add_card_inter _ _

/-- **The operations on sections are the set operations.** A number is in a union if it is in either
set, in an intersection if it is in both, in a difference if it is in the first set alone, and in a
symmetric difference if it is in exactly one of them; an operation that is chosen by name and an
operator give the same set as the operation itself. So the laws of the set operations hold as
equations between sections. -/
theorem operations_obey_the_laws_of_sets :
    (∀ (a b : MemberSet) (m : Nat),
      ((a.union b).contains m = true ↔ a.contains m = true ∨ b.contains m = true) ∧
      ((a.intersection b).contains m = true ↔ a.contains m = true ∧ b.contains m = true) ∧
      ((a.difference b).contains m = true ↔ a.contains m = true ∧ ¬ b.contains m = true) ∧
      ((a.symmetricDifference b).contains m = true ↔
        Xor (a.contains m = true) (b.contains m = true))) ∧
    (∀ a b : MemberSet,
      SetOperation.union.apply a b = a.union b ∧ a ||| b = a.union b ∧
      SetOperation.intersection.apply a b = a.intersection b ∧ a &&& b = a.intersection b ∧
      SetOperation.difference.apply a b = a.difference b ∧ a - b = a.difference b ∧
      SetOperation.symmetricDifference.apply a b = a.symmetricDifference b ∧
        a ^^^ b = a.symmetricDifference b) ∧
    ∀ a b c : MemberSet,
      a ||| b = b ||| a ∧ a ||| b ||| c = a ||| (b ||| c) ∧
      a &&& b = b &&& a ∧ a &&& b &&& c = a &&& (b &&& c) ∧
      a ^^^ b = b ^^^ a ∧ a ^^^ b ^^^ c = a ^^^ (b ^^^ c) ∧
      a &&& (b ||| c) = (a &&& b) ||| (a &&& c) ∧ a &&& (b ^^^ c) = (a &&& b) ^^^ (a &&& c) ∧
      a - (b ||| c) = (a - b) &&& (a - c) ∧
      a ^^^ b ^^^ b = a ∧ a ^^^ b = (a - b) ||| (b - a) ∧
      (a ||| b).size + (a &&& b).size = a.size + b.size := by
  refine ⟨fun a b m => ?_, fun a b => ?_, fun a b c => ?_⟩
  · exact ⟨contains_union_iff, contains_intersection_iff, contains_difference_iff,
      contains_symmetricDifference_iff⟩
  · exact ⟨rfl, rfl, rfl, rfl, rfl, rfl, rfl, rfl⟩
  · exact ⟨a.or_comm b, a.or_assoc b c, a.and_comm b, a.and_assoc b c, a.xor_comm b,
      a.xor_assoc b c, a.and_or_distrib_left b c, a.and_xor_distrib_left b c, a.sub_or b c,
      a.xor_xor_cancel_right b, a.xor_eq_sub_or_sub b, a.size_or_add_size_and b⟩

end SetCalculator.MemberSet
