import Mathlib.Algebra.GroupWithZero.Nat
import SetCalculator.Proofs.MemberSet.Finite

/-!
# The size of a set

The size is counted on the bits, one section after the other. Section `i` holds the numbers from
`8 * i` on, so the weights of the first sections count the members below the next one
(`weight_eq_countP`, `sum_weight_take`), and all sixteen count the members (`size_eq_length`,
`size_eq_card`).
-/

namespace SetCalculator.MemberSet

/-- The weight of a section is the number of members among the eight numbers that it covers. -/
theorem weight_eq_countP (s : MemberSet) {i : Nat} (hi : i < 16) :
    s.sections[i].weight = ((List.range 8).map (8 * i + ·)).countP s.contains := by
  rw [Section.weight, List.countP_map]
  refine List.countP_congr fun j hj => ?_
  rw [Function.comp_apply, contains_section_bit s hi (List.mem_range.1 hj)]

/-- **The first sections** count the members that they cover. -/
theorem sum_weight_take (s : MemberSet) {n : Nat} (hn : n ≤ 16) :
    ((s.sections.toList.take n).map Section.weight).sum =
      (List.range (8 * n)).countP s.contains := by
  induction n with
  | zero => rfl
  | succ n ih =>
    have hnext : s.sections.toList[n]? = some s.sections[n] := by simp [Nat.lt_of_succ_le hn]
    calc ((s.sections.toList.take (n + 1)).map Section.weight).sum
        = ((s.sections.toList.take n).map Section.weight).sum + s.sections[n].weight := by
          simp [List.take_add_one, hnext]
      _ = (List.range (8 * n)).countP s.contains +
            ((List.range 8).map (8 * n + ·)).countP s.contains := by
          rw [ih (Nat.le_of_succ_le hn), weight_eq_countP]
      _ = (List.range (8 * (n + 1))).countP s.contains := by
          rw [← List.countP_append, ← List.range_add, Nat.mul_succ]

/-- **The bits count the members that are listed.** -/
theorem size_eq_length (s : MemberSet) : s.size = s.toList.length := by
  have hall : s.sections.toList.take 16 = s.sections.toList := List.take_of_length_le (by simp)
  calc s.size = ((s.sections.toList.take 16).map Section.weight).sum := by
        rw [hall, size, List.sum_eq_foldr]
    _ = (List.range (8 * 16)).countP s.contains := sum_weight_take s (Nat.le_refl 16)
    _ = s.toList.length := by
        rw [toList_eq_filter, List.countP_eq_length_filter]
        rfl

/-- The size is the cardinality of the finite set. -/
theorem size_eq_card (s : MemberSet) : s.size = s.toFinset.card := by
  rw [size_eq_length, ← sort_toFinset, Finset.length_sort]

end SetCalculator.MemberSet
