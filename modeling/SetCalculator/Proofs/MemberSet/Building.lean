import SetCalculator.Proofs.MemberSet.Finite

/-!
# Building a set from a list of numbers

Numbers are added one after the other, and those outside the universe are refused. What comes out
depends only on which numbers of the universe occur in the list: `contains_insertAll` says this of
any number of insertions by induction over them, each of which adds one number and touches no other
(`contains_insert`). So the order, repetitions and numbers from 128 on do not matter, and neither
does what was stored before a set is refilled.

Two sets have the same sections if they have the same members (`sections_eq_iff`); since no number
from 128 on is a member, it is enough to ask for every byte.
-/

namespace SetCalculator.MemberSet

/-! ## Sections and members -/

/-- Sets that agree on every byte are the same. -/
theorem ext_bytes {s t : MemberSet} (h : ∀ m ≤ 255, s.contains m = t.contains m) : s = t := by
  refine ext_contains fun m => ?_
  by_cases hm : m ≤ 255
  · exact h m hm
  · have hout : ¬ m < 128 := by omega
    rw [contains, contains, dif_neg hout, dif_neg hout]

/-- **Sections against members.** Two sets are equal section by section if they have the same
members among the bytes. -/
theorem sections_eq_iff {s t : MemberSet} :
    (∀ i (h : i < 16), s.sections[i] = t.sections[i]) ↔
      ∀ m ≤ 255, s.contains m = t.contains m := by
  refine ⟨fun h m _ => ?_, fun h i _ => ?_⟩
  · have hsections : s.sections = t.sections := Vector.ext h
    cases s
    cases t
    subst hsections
    rfl
  · rw [ext_bytes h]

/-! ## One insertion -/

/-- A number of the universe is added. -/
theorem insert?_of_lt (s : MemberSet) {m : Nat} (h : m < 128) :
    s.insert? m = some (s.insert m) ∧ (s.insert m).contains m = true := by
  refine ⟨?_, contains_insert_iff.2 (.inr ⟨h, rfl⟩)⟩
  rw [insert, insert?, dif_pos h, Option.getD_some]

/-- Any other number is refused, and no section changes. -/
theorem insert?_of_ge (s : MemberSet) {m : Nat} (h : 128 ≤ m) :
    s.insert? m = none ∧ s.insert m = s := by
  have hnone : s.insert? m = none := dif_neg (by omega)
  exact ⟨hnone, by rw [insert, hnone, Option.getD_none]⟩

/-- The other numbers are members as before. -/
theorem contains_insert_of_ne (s : MemberSet) {m k : Nat} (h : k ≠ m) :
    (s.insert m).contains k = s.contains k := by
  have hne : (m == k) = false := beq_false_of_ne h.symm
  rw [contains_insert, hne, Bool.false_and, Bool.or_false]

/-! ## Lists of numbers -/

/-- A set built from a list holds those numbers of the list that lie in the universe. -/
theorem contains_ofList (l : List Nat) (k : Nat) :
    (ofList l).contains k = true ↔ k < 128 ∧ k ∈ l := by
  have hempty : ¬ empty.contains k = true := not_mem_empty k
  rw [ofList, refill, clear, contains_insertAll]
  exact or_iff_right hempty

/-- Whether two lists build the same set is decided by the numbers of the universe in them. -/
theorem ofList_eq_iff {l l' : List Nat} :
    ofList l = ofList l' ↔ ∀ m < 128, m ∈ l ↔ m ∈ l' := by
  refine ⟨fun h m hm => ?_, fun h => ext_contains fun m => Bool.eq_iff_iff.2 ?_⟩
  · have hsame := contains_ofList l m
    rw [h, contains_ofList] at hsame
    simpa [hm] using hsame.symm
  · rw [contains_ofList, contains_ofList]
    exact and_congr_right fun hm => h m hm

/-- **A set built from a list depends only on which numbers of the universe occur in the list.**
Refilled from any contents, filled anew, or collected number by number, it is the one set with these
members; two lists build the same set exactly if the same numbers of the universe occur in them. One
insertion adds its number, if the universe holds it, and leaves the other numbers alone; a number
that is refused leaves every section alone. And two sets are equal section by section exactly if
they agree on every byte. -/
theorem building_depends_on_members (l : List Nat) :
    (∃ t : MemberSet, (∀ m, t.contains m = true ↔ m ≤ 127 ∧ m ∈ l) ∧
      (∀ u : MemberSet, (∀ m ≤ 255, u.contains m = true ↔ m ≤ 127 ∧ m ∈ l) → u = t) ∧
      (∀ s : MemberSet, s.refill l = t) ∧ ofList l = t ∧ empty.insertAll l = t) ∧
    (∀ l', ofList l = ofList l' ↔ ∀ m < 128, m ∈ l ↔ m ∈ l') ∧
    (∀ (s : MemberSet) (m : Nat),
      ((s.insert? m).isSome = true ↔ m ≤ 127) ∧
      (m ≤ 127 → s.insert? m = some (s.insert m) ∧ (s.insert m).contains m = true) ∧
      (s.insert? m = none → ∀ i (h : i < 16), (s.insert m).sections[i] = s.sections[i]) ∧
      ∀ k, k ≠ m → (s.insert m).contains k = s.contains k) ∧
    (∀ s t : MemberSet, (∀ i (h : i < 16), s.sections[i] = t.sections[i]) ↔
      ∀ m ≤ 255, s.contains m = t.contains m) := by
  have hbuilt : ∀ m, (ofList l).contains m = true ↔ m ≤ 127 ∧ m ∈ l := fun m => by
    rw [contains_ofList, Nat.lt_succ_iff]
  refine ⟨⟨ofList l, hbuilt, fun u hu => ?_, fun _ => rfl, rfl, rfl⟩, fun _ => ofList_eq_iff,
    fun s m => ⟨?_, fun hm => insert?_of_lt s (by omega), fun hnone => ?_,
      fun _ hk => contains_insert_of_ne s hk⟩, fun _ _ => sections_eq_iff⟩
  · refine ext_bytes fun m hm => Bool.eq_iff_iff.2 ?_
    rw [hu m hm, hbuilt]
  · rw [isSome_insert?, Nat.lt_succ_iff]
  · have hm : ¬ m < 128 := by
      rw [← isSome_insert? (s := s), hnone]
      exact Bool.false_ne_true
    rw [(insert?_of_ge s (by omega)).2]
    exact fun _ _ => rfl

/-- A list with a repetition and with two numbers too large, over a set with other contents. -/
theorem building_depends_on_members_too_large :
    let l := [200, 5, 127, 5, 128]
    let s := ofList [64]
    let t := ofList [127, 5]
    s.refill l = t ∧ ofList l = t ∧ empty.insertAll l = t ∧
    (∀ m < 128, m ∈ l ↔ m ∈ [5, 127, 255]) ∧ ofList l = ofList [5, 127, 255] ∧
    s.insert? 127 = some (s.insert 127) ∧ (s.insert 127).contains 127 = true ∧
    (s.insert 127).contains 64 = s.contains 64 ∧
    s.insert? 128 = none ∧ ∀ i (h : i < 16), (s.insert 128).sections[i] = s.sections[i] := by
  intro l s t
  have hmembers : ∀ m ≤ 255, t.contains m = true ↔ m ≤ 127 ∧ m ∈ l := by decide +kernel
  have hnumbers : ∀ m < 128, m ∈ l ↔ m ∈ [5, 127, 255] := by decide +kernel
  have hnone : s.insert? 128 = none := by decide +kernel
  obtain ⟨⟨u, -, hunique, hrefill, hofList, hcollect⟩, hlists, hinsert, -⟩ :=
    building_depends_on_members l
  obtain rfl : t = u := hunique t hmembers
  obtain ⟨hadded, hcontains⟩ := (hinsert s 127).2.1 (by decide)
  exact ⟨hrefill s, hofList, hcollect, hnumbers, (hlists _).2 hnumbers, hadded, hcontains,
    (hinsert s 127).2.2.2 64 (by decide), hnone, (hinsert s 128).2.2.1 hnone⟩

end SetCalculator.MemberSet
