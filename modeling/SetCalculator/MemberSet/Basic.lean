/-!
# Sets of small integers

A member set is a subset of `{0, …, 127}`, kept as 16 sections of 8 bits: the member `m` is bit
`m % 8` of section `m / 8`. No bit stands for a number outside the universe, so every value of the
type is a set, and two sets with the same members are equal section by section.

Membership (`MemberSet.contains`) is the view through which the operations are described; the
lemmas beside them say what each does to it.
-/

namespace SetCalculator

/-- One section of a set: bit `i` stands for the `i`-th of the eight members it covers. -/
abbrev Section := BitVec 8

/-- The number of bits set in a section. -/
def Section.weight (b : Section) : Nat :=
  (List.range 8).countP b.getLsbD

/-- A subset of `{0, …, 127}`. -/
structure MemberSet where
  /-- The sections, lowest members first. -/
  sections : Vector Section 16
  deriving DecidableEq

namespace MemberSet

/-- The number of possible members, which are the numbers below it. -/
def universeSize : Nat := 128

/-- The set without members. -/
def empty : MemberSet := ⟨Vector.replicate 16 0⟩

instance : EmptyCollection MemberSet := ⟨empty⟩
instance : Inhabited MemberSet := ⟨empty⟩

/-- The section that covers a number of the universe. -/
def sectionOf (s : MemberSet) (m : Nat) (_h : m < 128) : Section := s.sections[m / 8]

/-- Whether `m` is a member; no number outside the universe is. -/
def contains (s : MemberSet) (m : Nat) : Bool :=
  if h : m < 128 then (s.sectionOf m h).getLsbD (m % 8) else false

instance : Membership Nat MemberSet := ⟨fun s m => s.contains m⟩

instance (m : Nat) (s : MemberSet) : Decidable (m ∈ s) := inferInstanceAs (Decidable (_ = true))

/-- Adds a member, and refuses a number outside the universe. -/
def insert? (s : MemberSet) (m : Nat) : Option MemberSet :=
  if h : m < 128 then
    some ⟨s.sections.set (m / 8) (s.sectionOf m h ||| BitVec.twoPow 8 (m % 8))⟩
  else none

/-- Adds a member; a number outside the universe leaves the set as it is. -/
def insert (s : MemberSet) (m : Nat) : MemberSet := (s.insert? m).getD s

/-- Removes every member. -/
def clear (_ : MemberSet) : MemberSet := empty

/-- Adds the members one after the other. -/
def insertAll (s : MemberSet) (ms : List Nat) : MemberSet := ms.foldl insert s

/-- Replaces the contents by the given members. -/
def refill (s : MemberSet) (ms : List Nat) : MemberSet := s.clear.insertAll ms

/-- The set of those of the given numbers that lie in the universe. -/
def ofList (ms : List Nat) : MemberSet := empty.refill ms

/-- Whether every section is zero. -/
def isEmpty (s : MemberSet) : Bool := s.sections.all (· == 0)

/-- The number of members, counted section by section. -/
def size (s : MemberSet) : Nat := (s.sections.toList.map Section.weight).foldr (· + ·) 0

/-! ## Membership after each operation -/

/-- Membership is what `contains` computes. -/
theorem mem_def {m : Nat} {s : MemberSet} : m ∈ s ↔ s.contains m = true := Iff.rfl

/-- Within the universe, a number is a member if its bit in its section is set. -/
theorem contains_of_lt {m : Nat} (h : m < 128) (s : MemberSet) :
    s.contains m = (s.sectionOf m h).getLsbD (m % 8) := dif_pos h

/-- Members lie in the universe. -/
theorem lt_of_mem {m : Nat} {s : MemberSet} (h : m ∈ s) : m < 128 := by
  simp only [mem_def, contains] at h
  split at h
  · assumption
  · cases h

@[simp] theorem not_mem_empty (m : Nat) : m ∉ empty := by
  simp [mem_def, contains, sectionOf, empty]

/-- An insertion is refused exactly outside the universe. -/
theorem isSome_insert? {s : MemberSet} {m : Nat} : (s.insert? m).isSome ↔ m < 128 := by
  unfold insert?
  split <;> simp_all

/-- Inserting adds the number if it can be a member, and touches no other membership. -/
theorem contains_insert (s : MemberSet) (m k : Nat) :
    (s.insert m).contains k = (s.contains k || (m == k && decide (m < 128))) := by
  by_cases hm : m < 128
  · by_cases hk : k < 128
    · simp only [insert, insert?, dif_pos hm, Option.getD_some, contains_of_lt hk, sectionOf]
      by_cases hs : m / 8 = k / 8
      · simp only [hs, Vector.getElem_set_self, BitVec.getLsbD_or, BitVec.getLsbD_twoPow]
        congr 1
        have : (m == k) = decide (m % 8 = k % 8) := by
          rw [Bool.eq_iff_iff]
          simp only [beq_iff_eq, decide_eq_true_eq]
          omega
        simp [this, hm, Nat.mod_lt]
      · have hne : (m == k) = false := by
          rw [beq_eq_false_iff_ne]
          rintro rfl
          exact hs rfl
        simp [hne, Vector.getElem_set_ne _ _ hs]
    · have hne : (m == k) = false := by
        rw [beq_eq_false_iff_ne]
        omega
      simp [contains, hk, hne]
  · simp [insert, insert?, hm]

end MemberSet

end SetCalculator
