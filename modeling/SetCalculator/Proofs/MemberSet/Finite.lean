import Mathlib.Data.Finset.Sort
import Mathlib.Data.Finset.SymmDiff
import SetCalculator.MemberSet.Algebra
import SetCalculator.Proofs.MemberSet.Members

/-!
# Member sets as finite sets

A member set is the bit-level form of a finite set of numbers below 128, its `toFinset`. The form is
exact: two member sets of the same finite set are equal (`toFinset_injective`). Every operation on
sections is the set operation it is named for: insertions add those of the given numbers that the
universe holds (`contains_insertAll`), refilling stores the numbers given (`toFinset_refill`), the
binary operations are union, intersection, difference and symmetric difference (`toFinset_apply`), a
set without bits is the empty one (`isEmpty_iff`), and the listing is the sorted one
(`sort_toFinset`). Refilled by its listing, a set is restored (`refill_toList`).
-/

namespace SetCalculator

namespace MemberSet

/-- The finite set of the members. -/
def toFinset (s : MemberSet) : Finset Nat := (Finset.range universeSize).filter (· ∈ s)

@[simp] theorem mem_toFinset {s : MemberSet} {m : Nat} : m ∈ s.toFinset ↔ s.contains m = true := by
  rw [toFinset, Finset.mem_filter, Finset.mem_range]
  exact ⟨fun h => h.2, fun h => ⟨lt_of_mem h, h⟩⟩

/-- The finite set of a set lies in the universe. -/
theorem toFinset_subset (s : MemberSet) : s.toFinset ⊆ Finset.range universeSize :=
  Finset.filter_subset _ _

/-! ## The form is exact -/

/-- Bit `j` of section `i` stands for the number `8 * i + j`. -/
theorem contains_section_bit (s : MemberSet) {i j : Nat} (hi : i < 16) (hj : j < 8) :
    s.contains (8 * i + j) = s.sections[i].getLsbD j := by
  have hdiv : (8 * i + j) / 8 = i := by omega
  have hmod : (8 * i + j) % 8 = j := by omega
  rw [contains_of_lt (by omega)]
  simp only [sectionOf, hdiv, hmod]

/-- Sets with the same members have the same sections. -/
theorem ext_contains {s t : MemberSet} (h : ∀ m, s.contains m = t.contains m) : s = t := by
  have hbit : ∀ (i j : Nat) (_ : i < 16), j < 8 →
      s.sections[i].getLsbD j = t.sections[i].getLsbD j := by
    intro i j hi hj
    rw [← contains_section_bit s hi hj, ← contains_section_bit t hi hj, h]
  cases s
  cases t
  congr 1
  exact Vector.ext fun i hi => BitVec.eq_of_getLsbD_eq fun j hj => hbit i j hi hj

/-- A set is known by its finite set. -/
theorem toFinset_injective : Function.Injective toFinset := by
  intro s t h
  refine ext_contains fun m => Bool.eq_iff_iff.2 ?_
  rw [← mem_toFinset, ← mem_toFinset, h]

@[simp] theorem toFinset_empty : empty.toFinset = ∅ := by
  ext m
  simpa [mem_def] using not_mem_empty m

/-- A set has no bits exactly if it has no members. -/
theorem isEmpty_iff {s : MemberSet} : s.isEmpty = true ↔ s.toFinset = ∅ := by
  rw [← toFinset_empty, toFinset_injective.eq_iff]
  refine ⟨fun h => ?_, fun h => ?_⟩
  · have hzero := Vector.all_eq_true.1 h
    cases s
    refine congrArg MemberSet.mk (Vector.ext fun i hi => ?_)
    simpa using hzero i hi
  · subst h
    simp [isEmpty, empty]

/-! ## Inserting -/

/-- After an insertion, a number is a member if it was one before, or if it is the one inserted and
the universe holds it. -/
theorem contains_insert_iff {s : MemberSet} {m k : Nat} :
    (s.insert m).contains k = true ↔ s.contains k = true ∨ k < 128 ∧ k = m := by
  rw [contains_insert]
  simp only [Bool.or_eq_true, Bool.and_eq_true, beq_iff_eq, decide_eq_true_eq]
  refine or_congr_right ⟨?_, ?_⟩
  · rintro ⟨rfl, hm⟩
    exact ⟨hm, rfl⟩
  · rintro ⟨hk, rfl⟩
    exact ⟨rfl, hk⟩

/-- **After any insertions**, a number is a member if it was one before, or if the universe holds it
and it occurs among the numbers inserted. -/
theorem contains_insertAll (s : MemberSet) (ms : List Nat) (k : Nat) :
    (s.insertAll ms).contains k = true ↔ s.contains k = true ∨ k < 128 ∧ k ∈ ms := by
  induction ms generalizing s with
  | nil => simp [insertAll]
  | cons m ms ih =>
    calc (s.insertAll (m :: ms)).contains k = true
        ↔ ((s.insert m).insertAll ms).contains k = true := Iff.rfl
      _ ↔ (s.contains k = true ∨ k < 128 ∧ k = m) ∨ k < 128 ∧ k ∈ ms := by
        rw [ih, contains_insert_iff]
      _ ↔ s.contains k = true ∨ k < 128 ∧ k ∈ m :: ms := by
        rw [List.mem_cons, or_assoc, ← and_or_left]

/-- Inserting adds exactly the numbers given, if the universe holds them. -/
theorem toFinset_insertAll {ms : List Nat} (h : ∀ m ∈ ms, m < universeSize) (s : MemberSet) :
    (s.insertAll ms).toFinset = s.toFinset ∪ ms.toFinset := by
  ext k
  rw [Finset.mem_union, mem_toFinset, mem_toFinset, List.mem_toFinset, contains_insertAll]
  exact or_congr_right (and_iff_right_of_imp (h k))

/-- **Refilling forgets the old members** and stores exactly the numbers given. -/
theorem toFinset_refill {ms : List Nat} (h : ∀ m ∈ ms, m < universeSize) (s : MemberSet) :
    (s.refill ms).toFinset = ms.toFinset := by
  rw [refill, clear, toFinset_insertAll h, toFinset_empty, Finset.empty_union]

/-! ## Listing -/

/-- The numbers of the listing are the members. -/
theorem toFinset_toList (s : MemberSet) : s.toList.toFinset = s.toFinset := by
  ext m
  rw [List.mem_toFinset, mem_toList, mem_toFinset]

/-- The listing is the ascending one of the finite set. -/
theorem sort_toFinset (s : MemberSet) : s.toFinset.sort (· ≤ ·) = s.toList := by
  have hsorted : s.toList.Pairwise (· ≤ ·) := s.pairwise_toList.imp Nat.le_of_lt
  have hnodup : s.toList.Nodup := s.pairwise_toList.imp Nat.ne_of_lt
  rw [← toFinset_toList]
  exact (List.toFinset_sort _ hnodup).2 hsorted

/-- No members are listed exactly for the set whose sections are all zero. -/
theorem toList_eq_nil_iff {s : MemberSet} : s.toList = [] ↔ s.isEmpty = true := by
  rw [isEmpty_iff, ← toFinset_toList, List.toFinset_eq_empty_iff]

/-- The listing of a set restores it, whatever was stored before. -/
theorem refill_toList (s t : MemberSet) : t.refill s.toList = s :=
  toFinset_injective ((toFinset_refill (fun _ => lt_of_mem_toList) t).trans (toFinset_toList s))

end MemberSet

/-! ## Binary operations -/

/-- The operation on finite sets that a name stands for. -/
def SetOperation.onFinsets : SetOperation → Finset Nat → Finset Nat → Finset Nat
  | union, s, t => s ∪ t
  | intersection, s, t => s ∩ t
  | difference, s, t => s \ t
  | symmetricDifference, s, t => symmDiff s t

/-- **The operations on sections are the set operations.** -/
theorem SetOperation.toFinset_apply (op : SetOperation) (s t : MemberSet) :
    (op.apply s t).toFinset = op.onFinsets s.toFinset t.toFinset := by
  ext m
  cases op with
  | union => simp [apply, onFinsets, MemberSet.contains_union]
  | intersection => simp [apply, onFinsets, MemberSet.contains_intersection]
  | difference => simp [apply, onFinsets, MemberSet.contains_difference]
  | symmetricDifference =>
    simp only [apply, onFinsets, MemberSet.mem_toFinset, MemberSet.contains_symmetricDifference,
      Finset.mem_symmDiff]
    cases s.contains m <;> cases t.contains m <;> simp

end SetCalculator
