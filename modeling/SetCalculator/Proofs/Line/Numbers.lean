import SetCalculator.Proofs.Line.Operands
import SetCalculator.Proofs.Text.Limits

/-!
# The first violation among the numbers

The numbers after the target of a `read` are members, and the last is the terminator. `NumberFits`
says what a word needs at its place, in terms of the exact integer that it denotes. The check goes
from left to right and knows the last word by looking ahead, so its verdict is that of the first
word that does not fit (`checkMembers_of_first_misfit`), checked for what its place needs.

Values are read with a cut at the 64-bit limits. All that the check asks of a value is whether it is
a member, the terminator, or beyond the members, and a cut changes none of these
(`comparisons_of_denotes`).
-/

namespace SetCalculator

open Text

/-- The word at place `i` is there and is a numeral of what the place needs: of the terminator if it
is the last, and otherwise of a member. -/
def NumberFits (ws : List (List Char)) (i : Nat) : Prop :=
  ∃ w ∈ ws[i]?, ∃ z, Denotes w z ∧ if i + 1 = ws.length then z = -1 else 0 ≤ z ∧ z ≤ 127

/-! ## Values that were cut off -/

/-- **No comparison of the check sees the cut**, however many digits the numeral has. -/
theorem comparisons_of_denotes {w : List Char} {z : Int} (h : Denotes w z) :
    ∃ value, integer? w = some value ∧ (isMember value = true ↔ 0 ≤ z ∧ z ≤ 127) ∧
      (value = terminator ↔ z = -1) ∧ (MemberSet.universeSize ≤ value ↔ 127 < z) := by
  refine ⟨clamp z, integer?_of_denotes h, ?_, clamp_eq_terminator_iff, ?_⟩
  · rw [isMember_iff]
    simp only [clamp, leastInteger, greatestInteger]
    omega
  · simp only [MemberSet.universeSize, clamp, leastInteger, greatestInteger]
    omega

/-! ## One word -/

section
variable {w : List Char} {z : Int}

/-- In the place of a member, a word that is no numeral is not an integer. -/
theorem checkMember_of_not_isNumeral (h : ¬ IsNumeral w) :
    checkMember w = .error .notAnInteger := by
  rw [checkMember, integer?_eq_none_iff.2 h]

/-- In the place of a member, a numeral is judged by its exact number. -/
theorem checkMember_of_denotes (h : Denotes w z) :
    checkMember w = if 0 ≤ z ∧ z ≤ 127 then .ok () else .error .outOfRange := by
  obtain ⟨value, hvalue, hmember, -⟩ := comparisons_of_denotes h
  simp only [checkMember, hvalue, hmember]

/-- In the last place, a word that is no numeral is not an integer. -/
theorem checkTerminator_of_not_isNumeral (h : ¬ IsNumeral w) :
    checkTerminator w = .error .notAnInteger := by
  rw [checkTerminator, integer?_eq_none_iff.2 h]

/-- In the last place, a numeral is judged by its exact number: above the members it is out of
range, otherwise only the terminator will do. -/
theorem checkTerminator_of_denotes (h : Denotes w z) :
    checkTerminator w = if 127 < z then .error .outOfRange
      else if z = -1 then .ok () else .error .missingTerminator := by
  obtain ⟨value, hvalue, -, hend, hbeyond⟩ := comparisons_of_denotes h
  simp only [checkTerminator, hvalue, hend, hbeyond]

end

/-! ## Places -/

/-- A single word has to be the terminator. -/
theorem numberFits_singleton {w : List Char} : NumberFits [w] 0 ↔ checkTerminator w = .ok () := by
  rw [checkTerminator_eq_ok_iff]
  simp [NumberFits, terminator]

/-- A word that others follow has to be a member. -/
theorem numberFits_cons_zero {w : List Char} {ws : List (List Char)} (h : ws ≠ []) :
    NumberFits (w :: ws) 0 ↔ checkMember w = .ok () := by
  have hplace : NumberFits (w :: ws) 0 ↔ ∃ z, Denotes w z ∧ 0 ≤ z ∧ z ≤ 127 := by
    simp [NumberFits, h]
  rw [hplace, checkMember_eq_ok_iff]
  refine ⟨fun hz => ?_, fun hm => ?_⟩
  · obtain ⟨z, hz, hlow, hhigh⟩ := hz
    obtain ⟨m, rfl⟩ := Int.eq_ofNat_of_zero_le hlow
    exact ⟨m, hz, Nat.lt_succ_of_le (Int.ofNat_le.1 hhigh)⟩
  · obtain ⟨m, hm, hlt⟩ := hm
    exact ⟨m, hm, Int.natCast_nonneg m, Int.ofNat_le.2 (Nat.le_of_lt_succ hlt)⟩

@[simp] theorem numberFits_cons_succ {w : List Char} {ws : List (List Char)} {i : Nat} :
    NumberFits (w :: ws) (i + 1) ↔ NumberFits ws i := by
  simp [NumberFits]

/-! ## The first violation -/

/-- **The verdict is that of the first word that does not fit.** -/
theorem checkMembers_of_first_misfit {ws : List (List Char)} {i : Nat} {w : List Char}
    (hw : ws[i]? = some w) (hmisfit : ¬ NumberFits ws i) (hfirst : ∀ j < i, NumberFits ws j) :
    checkMembers ws = if i + 1 = ws.length then checkTerminator w else checkMember w := by
  fun_induction checkMembers ws generalizing i with
  | case1 => cases hw
  | case2 v =>
    cases i with
    | zero =>
      cases hw
      rfl
    | succ i => cases hw
  | case3 v ws hne ih =>
    have hne : ws ≠ [] := fun hnil => hne hnil
    cases i with
    | zero =>
      obtain rfl : v = w := by simpa using hw
      rw [numberFits_cons_zero hne] at hmisfit
      have hlength : ¬ 0 + 1 = (v :: ws).length := by simpa using hne
      rw [if_neg hlength]
      cases hv : checkMember v with
      | ok => exact absurd hv hmisfit
      | error e => rfl
    | succ i =>
      -- The first word fits and is not the last, so it passes, and the places behind it
      -- move up by one.
      have hv := (numberFits_cons_zero hne).1 (hfirst 0 (Nat.succ_pos i))
      have htail := ih hw (fun h => hmisfit (numberFits_cons_succ.2 h))
        fun j hj => numberFits_cons_succ.1 (hfirst (j + 1) (Nat.succ_lt_succ hj))
      simp only [List.length_cons, Nat.add_right_cancel_iff]
      rw [hv, ← htail]
      rfl

/-- The check passes a list that is not empty and in which every word fits. -/
theorem checkMembers_eq_ok_iff_fits {ws : List (List Char)} :
    checkMembers ws = .ok () ↔ ws ≠ [] ∧ ∀ i < ws.length, NumberFits ws i := by
  fun_induction checkMembers ws with
  | case1 => simp
  | case2 v => simp [← numberFits_singleton]
  | case3 v ws hne ih =>
    rw [bind_eq_ok_iff, List.length_cons, Nat.forall_lt_succ_left, numberFits_cons_zero hne]
    simp only [numberFits_cons_succ, ih]
    refine ⟨fun h => ?_, fun h => ?_⟩
    · obtain ⟨_, hv, -, hfits⟩ := h
      exact ⟨List.cons_ne_nil v ws, hv, hfits⟩
    · obtain ⟨-, hv, hfits⟩ := h
      exact ⟨(), hv, hne, hfits⟩

/-- **The numbers, by their first violation, for every list of words.** Without words the terminator
is missing. The check passes if every word fits its place. Otherwise the verdict is about the first
word that does not: it is no integer if the word is no numeral; the number is out of range if the
word is not the last, or if its number is beyond the members; and else the terminator is missing or
misplaced. All this is about exact integers: what is read in place of one answers every comparison
of the check as the integer itself would. -/
theorem members_by_first_violation (ws : List (List Char)) :
    (ws = [] → checkMembers ws = .error .missingTerminator) ∧
    (checkMembers ws = .ok () ↔ ws ≠ [] ∧ ∀ i < ws.length, NumberFits ws i) ∧
    (∀ i w, ws[i]? = some w → ¬ NumberFits ws i → (∀ j < i, NumberFits ws j) →
      (¬ IsNumeral w → checkMembers ws = .error .notAnInteger) ∧
      ∀ z, Denotes w z → checkMembers ws =
        if i + 1 ≠ ws.length ∨ 127 < z then .error .outOfRange else .error .missingTerminator) ∧
    (∀ w ∈ ws, ∀ z, Denotes w z → ∃ value, integer? w = some value ∧
      (isMember value = true ↔ 0 ≤ z ∧ z ≤ 127) ∧ (value = terminator ↔ z = -1) ∧
      (MemberSet.universeSize ≤ value ↔ 127 < z)) := by
  refine ⟨?_, checkMembers_eq_ok_iff_fits, ?_, fun w _ z hz => comparisons_of_denotes hz⟩
  · rintro rfl
    rfl
  · intro i w hw hmisfit hfirst
    rw [checkMembers_of_first_misfit hw hmisfit hfirst]
    by_cases hlast : i + 1 = ws.length
    · rw [if_pos hlast]
      refine ⟨checkTerminator_of_not_isNumeral, fun z hz => ?_⟩
      have hend : z ≠ -1 := fun hend => hmisfit ⟨w, hw, z, hz, by rw [if_pos hlast, hend]⟩
      have hbeyond : i + 1 ≠ ws.length ∨ 127 < z ↔ 127 < z := or_iff_right (not_not.2 hlast)
      rw [checkTerminator_of_denotes hz, if_neg hend]
      exact (if_congr hbeyond rfl rfl).symm
    · rw [if_neg hlast]
      refine ⟨checkMember_of_not_isNumeral, fun z hz => ?_⟩
      have hout : ¬ (0 ≤ z ∧ z ≤ 127) := fun hmember =>
        hmisfit ⟨w, hw, z, hz, by rwa [if_neg hlast]⟩
      rw [checkMember_of_denotes hz, if_neg hout, if_pos (.inl hlast)]

/-- A number beyond the 64-bit limits where the terminator should be is out of range, and a word
that is no numeral is reported first if it stands first. -/
theorem members_by_first_violation_beyond_the_limits :
    let large := "99999999999999999999".toList
    let ws := ["5".toList, large]
    NumberFits ws 0 ∧ ¬ NumberFits ws 1 ∧ Denotes large 99999999999999999999 ∧
    checkMembers ws = .error .outOfRange ∧
    checkMembers ["1e3".toList, large] = .error .notAnInteger ∧
    checkMembers [] = .error .missingTerminator ∧
    ∃ value, integer? large = some value ∧ MemberSet.universeSize ≤ value := by
  intro large ws
  have hlarge : Denotes large 99999999999999999999 := by
    have hvalue : (Nat.ofDigitChars 10 large 0 : Int) = 99999999999999999999 := by decide +kernel
    rw [← hvalue]
    exact .unsigned (by decide +kernel) (List.all_eq_true.1 (by decide +kernel))
  have hfits : NumberFits ws 0 := (numberFits_cons_zero (by simp)).2 (by decide +kernel)
  have hmisfit : ¬ NumberFits ws 1 := by
    rw [numberFits_cons_succ, numberFits_singleton]
    decide +kernel
  have hletter : ¬ NumberFits ["1e3".toList, large] 0 := by
    rw [numberFits_cons_zero (by simp)]
    decide +kernel
  obtain ⟨-, -, hviolation, hvalues⟩ := members_by_first_violation ws
  obtain ⟨-, hnumber⟩ := hviolation 1 large rfl hmisfit (by simpa using hfits)
  obtain ⟨-, -, hviolation', -⟩ := members_by_first_violation ["1e3".toList, large]
  obtain ⟨hword, -⟩ := hviolation' 0 "1e3".toList rfl hletter nofun
  obtain ⟨value, hvalue, -, -, hbeyond⟩ := hvalues large (by simp [ws]) _ hlarge
  exact ⟨hfits, hmisfit, hlarge, (hnumber _ hlarge).trans (if_pos (.inr (by decide))),
    hword (by decide +kernel), (members_by_first_violation []).1 rfl, value, hvalue,
    hbeyond.2 (by decide)⟩

end SetCalculator
