import SetCalculator.MemberSet.Members

/-!
# The listing against membership

The listing walks over the universe and jumps over sections without bits. `toList_eq_filter` says
that it misses nothing and repeats nothing: it lists the numbers of the universe that are members,
in ascending order. One step of the walk takes the first of the members that are left
(`membersFrom_eq_next`), so a bounded listing is the beginning of the full one
(`takeFrom_eq_take`).
-/

namespace SetCalculator.MemberSet

/-- The members at or after a position, found by looking at every number. -/
def membersFrom (s : MemberSet) (position : Nat) : List Nat :=
  (List.range' position (128 - position)).filter s.contains

/-- No number of a section without bits is a member. -/
theorem contains_of_section_zero {s : MemberSet} {position k : Nat} (h : position < 128)
    (hzero : position % 8 = 0 ∧ s.sectionOf position h = 0)
    (hk : position ≤ k ∧ k < position + 8) : s.contains k = false := by
  have hdiv : k / 8 = position / 8 := by omega
  have hsection : s.sectionOf k (by omega) = s.sectionOf position h := by
    simp only [sectionOf, hdiv]
  rw [contains_of_lt (by omega), hsection, hzero.2]
  simp

/-- From the start of a section without bits, the members left are those from the next section
on. -/
theorem membersFrom_of_section_zero {s : MemberSet} {position : Nat} (h : position < 128)
    (hzero : position % 8 = 0 ∧ s.sectionOf position h = 0) :
    s.membersFrom position = s.membersFrom (position + 8) := by
  have hsplit : 128 - position = 8 + (128 - (position + 8)) := by omega
  rw [membersFrom, hsplit, ← List.range'_append_1, List.filter_append]
  have hnone : (List.range' position 8).filter s.contains = [] := by
    rw [List.filter_eq_nil_iff]
    intro k hk
    simp only [List.mem_range'_1] at hk
    simp [contains_of_section_zero h hzero hk]
  rw [hnone, List.nil_append]
  rfl

/-- A position in the universe is the first of the members left if it is one, and otherwise passed
over. -/
theorem membersFrom_of_lt {s : MemberSet} {position : Nat} (h : position < 128) :
    s.membersFrom position =
      if s.contains position then position :: s.membersFrom (position + 1)
      else s.membersFrom (position + 1) := by
  have hsplit : 128 - position = (128 - (position + 1)) + 1 := by omega
  rw [membersFrom, hsplit, List.range'_succ, List.filter_cons]
  rfl

/-- No members are left behind the universe. -/
theorem membersFrom_of_ge {s : MemberSet} {position : Nat} (h : ¬ position < 128) :
    s.membersFrom position = [] := by
  have : 128 - position = 0 := by omega
  simp [membersFrom, this]

/-- **One step of the walk** takes the first of the members that are left. -/
theorem membersFrom_eq_next (s : MemberSet) (position : Nat) :
    s.membersFrom position =
      match s.next position with
      | (some m, after) => m :: s.membersFrom after
      | (none, _) => [] := by
  fun_induction next s position with
  | case1 position h hzero ih => rw [membersFrom_of_section_zero h hzero, ih]
  | case2 position h _ hm => rw [membersFrom_of_lt h, if_pos hm]
  | case3 position h _ hm ih => rw [membersFrom_of_lt h, if_neg hm, ih]
  | case4 position h => rw [membersFrom_of_ge h]

/-- **A bounded listing** is the beginning of the members that are left. -/
theorem takeFrom_eq_take (s : MemberSet) (n position : Nat) :
    s.takeFrom n position = (s.membersFrom position).take n := by
  induction n generalizing position with
  | zero => rfl
  | succ n ih =>
    rw [takeFrom, membersFrom_eq_next]
    rcases s.next position with ⟨_ | m, after⟩
    · rfl
    · rw [List.take_succ_cons, ← ih]

/-- The listing is what is left at the start. -/
theorem toList_eq_membersFrom (s : MemberSet) : s.toList = s.membersFrom 0 := by
  have hlen : (s.membersFrom 0).length ≤ universeSize := by
    simpa [membersFrom, universeSize] using List.length_filter_le s.contains (List.range' 0 128)
  rw [toList, take, takeFrom_eq_take, List.take_of_length_le hlen]

/-- **The listing holds the members and nothing else**, in ascending order. -/
theorem toList_eq_filter (s : MemberSet) :
    s.toList = (List.range universeSize).filter s.contains := by
  rw [toList_eq_membersFrom, membersFrom, List.range_eq_range']
  rfl

/-- The listing holds the members and nothing else. -/
theorem mem_toList {s : MemberSet} {m : Nat} : m ∈ s.toList ↔ s.contains m = true := by
  rw [toList_eq_filter, List.mem_filter, List.mem_range]
  exact ⟨fun h => h.2, fun h => ⟨lt_of_mem h, h⟩⟩

/-- The listing ascends, so no member occurs twice. -/
theorem pairwise_toList (s : MemberSet) : s.toList.Pairwise (· < ·) := by
  rw [toList_eq_filter]
  exact List.pairwise_lt_range.filter _

/-- What is listed lies in the universe. -/
theorem lt_of_mem_toList {s : MemberSet} {m : Nat} (h : m ∈ s.toList) : m < universeSize :=
  lt_of_mem (mem_toList.1 h)

end SetCalculator.MemberSet
