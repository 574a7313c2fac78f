import SetCalculator.Proofs.MemberSet.Size

/-!
# Walking over the members

The members are found by calls of `next`, each of which starts where the last one stopped. A call
passes over positions one by one, or over a whole section without bits at once; `pass` is what it
does at one position, and `next_eq_pass` says that a call is made of such passes.

`Visits` holds of the positions at which the walk ever stands, before a call or on the way to its
answer. It never leaves the universe by more than its end (`Visits.le`), and every pass goes forward
(`lt_after_pass`).

A call gives the first of the members that are left, and leaves the others (`head?_membersFrom`,
`tail_membersFrom`). So call `k` gives member `k` of the listing, and nothing once the members are
used up (`call_eq_getElem?`).
-/

namespace SetCalculator.MemberSet

/-! ## One pass -/

/-- One pass at a position: the member found there, if there is one, and the position after it. -/
def pass (s : MemberSet) (position : Nat) (h : position < 128) : Option Nat × Nat :=
  if position % 8 = 0 ∧ s.sectionOf position h = 0 then (none, position + 8)
  else if s.contains position then (some position, position + 1)
  else (none, position + 1)

/-- **A call passes on** until it finds a member or the universe ends. -/
theorem next_eq_pass (s : MemberSet) (position : Nat) :
    s.next position =
      if h : position < 128 then
        match s.pass position h with
        | (some m, after) => (some m, after)
        | (none, after) => s.next after
      else (none, position) := by
  fun_cases next s position with
  | case1 h hzero => rw [dif_pos h, pass, if_pos hzero]
  | case2 h hzero hm => rw [dif_pos h, pass, if_neg hzero, if_pos hm]
  | case3 h hzero hm => rw [dif_pos h, pass, if_neg hzero, if_neg hm]
  | case4 h => rw [dif_neg h]

/-- Every pass goes forward. -/
theorem lt_after_pass (s : MemberSet) {position : Nat} (h : position < 128) :
    position < (s.pass position h).2 := by
  fun_cases pass s position h with
  | case1 => exact Nat.lt_add_of_pos_right (by decide)
  | case2 | case3 => exact Nat.lt_succ_self position

/-- No pass goes beyond the end of the universe: sections are passed over from their start. -/
theorem after_pass_le (s : MemberSet) {position : Nat} (h : position < 128) :
    (s.pass position h).2 ≤ 128 := by
  fun_cases pass s position h with
  | case1 hzero =>
    have hstart : position % 8 = 0 := hzero.1
    show position + 8 ≤ 128
    omega
  | case2 | case3 => exact h

/-- `s.Visits position`: the walk over the members stands at the position, at the start of a call or
after a pass. -/
inductive Visits (s : MemberSet) : Nat → Prop
  | start : Visits s 0
  | pass {position : Nat} (h : position < 128) : Visits s position →
    Visits s (s.pass position h).2

/-- The walk never stands behind the end of the universe. -/
theorem Visits.le {s : MemberSet} {position : Nat} (h : s.Visits position) : position ≤ 128 := by
  cases h with
  | start => exact Nat.zero_le 128
  | pass hlt _ => exact s.after_pass_le hlt

/-- A call ends at a position that is visited. -/
theorem Visits.next {s : MemberSet} {position : Nat} (h : s.Visits position) :
    s.Visits (s.next position).2 := by
  fun_induction MemberSet.next s position with
  | case1 position hlt hzero ih =>
    have hpass := h.pass hlt
    rw [MemberSet.pass, if_pos hzero] at hpass
    exact ih hpass
  | case2 position hlt hzero hm =>
    have hpass := h.pass hlt
    rwa [MemberSet.pass, if_neg hzero, if_pos hm] at hpass
  | case3 position hlt hzero hm ih =>
    have hpass := h.pass hlt
    rw [MemberSet.pass, if_neg hzero, if_neg hm] at hpass
    exact ih hpass
  | case4 => exact h

/-! ## One call -/

/-- A call without an answer has come to the end of the universe. -/
theorem le_of_next_eq_none {s : MemberSet} {position after : Nat}
    (h : s.next position = (none, after)) : 128 ≤ after := by
  fun_induction next s position with
  | case1 _ _ _ ih | case3 _ _ _ _ ih => exact ih h
  | case2 => cases h
  | case4 position hlt =>
    cases h
    exact Nat.le_of_not_lt hlt

/-- **A call gives the first of the members that are left**, if there is one. -/
theorem head?_membersFrom (s : MemberSet) (position : Nat) :
    (s.membersFrom position).head? = (s.next position).1 := by
  rw [membersFrom_eq_next]
  rcases s.next position with ⟨_ | m, after⟩ <;> rfl

/-- **A call leaves the others.** -/
theorem tail_membersFrom (s : MemberSet) (position : Nat) :
    (s.membersFrom position).tail = s.membersFrom (s.next position).2 := by
  rw [membersFrom_eq_next]
  cases hnext : s.next position with
  | mk found after =>
    cases found with
    | none =>
      have hend := le_of_next_eq_none hnext
      exact (membersFrom_of_ge (Nat.not_lt_of_le hend)).symm
    | some m => rfl

/-! ## All calls -/

/-- The position at which the walk stands after a number of calls. -/
def positionAfter (s : MemberSet) : Nat → Nat
  | 0 => 0
  | calls + 1 => (s.next (s.positionAfter calls)).2

/-- What a call gives if this number of calls were made before it. -/
def call (s : MemberSet) (before : Nat) : Option Nat := (s.next (s.positionAfter before)).1

/-- Wherever the walk stands between two calls, it stands at a position that it visits. -/
theorem visits_positionAfter (s : MemberSet) (calls : Nat) : s.Visits (s.positionAfter calls) := by
  induction calls with
  | zero => exact .start
  | succ calls ih => exact ih.next

/-- After some calls, as many members of the listing are used up. -/
theorem membersFrom_positionAfter (s : MemberSet) (calls : Nat) :
    s.membersFrom (s.positionAfter calls) = s.toList.drop calls := by
  induction calls with
  | zero => rw [positionAfter, toList_eq_membersFrom, List.drop_zero]
  | succ calls ih => rw [positionAfter, ← tail_membersFrom, ih, List.tail_drop]

/-- **Each call gives the next member of the listing**, and the calls after the last member give
nothing. -/
theorem call_eq_getElem? (s : MemberSet) (before : Nat) : s.call before = s.toList[before]? := by
  rw [call, ← head?_membersFrom, membersFrom_positionAfter, List.head?_drop]

/-- **The walk agrees with membership.** The calls give the members, each once and in ascending
order, and nothing from then on; these are the numbers that a look at every number of the universe
finds, as many as the bits count, and none exactly if there are no bits. Filled with them, or
collected from them, a set has the same sections. A call is made of passes; wherever the walk stands
it has not gone beyond the end of the universe, and while it has not come there the section it looks
at exists and the next pass goes forward. -/
theorem walk_agrees_with_membership (s : MemberSet) :
    (∃ found : List Nat, (∀ k, s.call k = found[k]?) ∧
      found.Pairwise (· < ·) ∧ (∀ m, m ∈ found ↔ s.contains m = true) ∧
      found = (List.range 128).filter s.contains ∧
      found.length = s.size ∧ (∀ k, s.size ≤ k → s.call k = none) ∧
      (s.isEmpty = true ↔ found = []) ∧
      ofList found = s ∧ empty.insertAll found = s) ∧
    (∀ position, s.next position =
      if h : position < 128 then
        match s.pass position h with
        | (some m, after) => (some m, after)
        | (none, after) => s.next after
      else (none, position)) ∧
    (∀ k, s.Visits (s.positionAfter k)) ∧
    ∀ position, s.Visits position → position ≤ 128 ∧
      ∀ h : position < 128, position / 8 < 16 ∧ position < (s.pass position h).2 := by
  have hend : ∀ k, s.size ≤ k → s.call k = none := fun k hk => by
    rw [call_eq_getElem?, List.getElem?_eq_none_iff, ← size_eq_length]
    exact hk
  exact ⟨⟨s.toList, s.call_eq_getElem?, s.pairwise_toList, fun _ => mem_toList,
    s.toList_eq_filter, s.size_eq_length.symm, hend, toList_eq_nil_iff.symm,
    refill_toList s empty, refill_toList s empty⟩, s.next_eq_pass, s.visits_positionAfter,
    fun position hvisits => ⟨hvisits.le, fun h => ⟨by omega, s.lt_after_pass h⟩⟩⟩

/-- The section before the first member is passed over at once, and the last number of the universe
is a member. -/
theorem walk_agrees_with_membership_up_to_the_end :
    let s := ofList [127, 9]
    s.call 0 = some 9 ∧ s.call 1 = some 127 ∧ s.call 2 = none ∧ s.size ≤ 50 ∧ s.call 50 = none ∧
    s.Visits 8 ∧ (∀ h : 8 < 128, 8 / 8 < 16 ∧ 8 < (s.pass 8 h).2) ∧
    s.Visits (s.positionAfter 2) ∧ s.positionAfter 2 = 128 := by
  intro s
  have hsize : s.size = 2 := by decide +kernel
  have hvisits : s.Visits 8 := @Visits.pass s 0 (by decide) .start
  obtain ⟨⟨found, hcalls, -, -, hfound, -, hend, -⟩, -, hcursor, hwalk⟩ :=
    walk_agrees_with_membership s
  obtain rfl : found = [9, 127] := hfound.trans (by decide +kernel)
  exact ⟨hcalls 0, hcalls 1, hcalls 2, by omega, hend 50 (by omega), hvisits,
    (hwalk 8 hvisits).2, hcursor 2, by decide +kernel⟩

end SetCalculator.MemberSet
