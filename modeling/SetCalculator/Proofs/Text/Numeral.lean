import SetCalculator.Text.Integer

/-!
# Numerals

`Denotes w z` says what it is for a word to be a numeral, without regard to how it is read: one
optional sign, then at least one ASCII digit, and the number in decimal. `integer?_eq_some_iff` says
that `integer?` reads exactly the numerals, and that the value it gives is the number itself cut off
once at the 64-bit limits, although the reading stops at the limits after every digit: a value that
has reached a limit stays there, since all digits move it the same way (`appendDigit_clamp`).
-/

namespace SetCalculator.Text

/-- The word is a numeral of the integer: an optional sign and the digits of its absolute value,
with any number of leading zeros. -/
inductive Denotes : List Char → Int → Prop
  | unsigned {ds : List Char} : ds ≠ [] → (∀ c ∈ ds, c.isDigit = true) →
      Denotes ds (Nat.ofDigitChars 10 ds 0)
  | plus {ds : List Char} : ds ≠ [] → (∀ c ∈ ds, c.isDigit = true) →
      Denotes ('+' :: ds) (Nat.ofDigitChars 10 ds 0)
  | minus {ds : List Char} : ds ≠ [] → (∀ c ∈ ds, c.isDigit = true) →
      Denotes ('-' :: ds) (-(Nat.ofDigitChars 10 ds 0 : Int))

/-- The number with the given sign and absolute value. -/
def signed (negative : Bool) (n : Nat) : Int := if negative then -(n : Int) else n

/-! ## Reading digits -/

/-- The value of a digit is its distance from zero. -/
theorem digitValue?_of_isDigit {c : Char} (h : c.isDigit = true) :
    digitValue? c = some (c.toNat - '0'.toNat) := by
  have hrange := Char.isDigit_iff_toNat.1 h
  exact if_pos hrange

/-- A character that is no digit has no value. -/
theorem digitValue?_of_not_isDigit {c : Char} (h : c.isDigit = false) : digitValue? c = none := by
  refine if_neg fun hcon => ?_
  have := Char.isDigit_iff_toNat.2 hcon
  rw [h] at this
  cases this

/-- **One digit.** Cutting off before a digit is read, after the multiplication and after the
addition comes to cutting off once. -/
theorem appendDigit_clamp {c : Char} (h : c.isDigit = true) (negative : Bool) (n : Nat) :
    appendDigit negative (clamp (signed negative n)) c =
      some (clamp (signed negative (10 * n + (c.toNat - '0'.toNat)))) := by
  rw [appendDigit, digitValue?_of_isDigit h, Option.map_some]
  generalize c.toNat - '0'.toNat = d
  refine congrArg some ?_
  cases negative with
  | false =>
    simp only [signed, clamp, leastInteger, greatestInteger, Bool.false_eq_true, if_false]
    omega
  | true =>
    simp only [signed, clamp, leastInteger, greatestInteger, if_true]
    omega

/-- Digits are folded to their number, clamped: clamping at every step is clamping once at the
end. -/
theorem foldlM_appendDigit {ds : List Char} (h : ∀ c ∈ ds, c.isDigit = true) (negative : Bool)
    (n : Nat) : ds.foldlM (appendDigit negative) (clamp (signed negative n)) =
      some (clamp (signed negative (Nat.ofDigitChars 10 ds n))) := by
  induction ds generalizing n with
  | nil => rfl
  | cons c ds ih =>
    have hc := h c (by simp)
    have hds := ih fun d hd => h d (by simp [hd])
    rw [List.foldlM_cons, appendDigit_clamp hc, Nat.ofDigitChars_cons]
    exact hds _

/-- A character that is no digit ends the reading, whatever was read before it. -/
theorem isDigit_of_foldlM_appendDigit {ds : List Char} {negative : Bool} {start value : Int}
    (h : ds.foldlM (appendDigit negative) start = some value) : ∀ c ∈ ds, c.isDigit = true := by
  induction ds generalizing start with
  | nil => simp
  | cons c ds ih =>
    rw [List.foldlM_cons] at h
    cases hc : c.isDigit with
    | false =>
      rw [appendDigit, digitValue?_of_not_isDigit hc] at h
      cases h
    | true =>
      rw [appendDigit, digitValue?_of_isDigit hc] at h
      intro d hd
      rcases List.mem_cons.1 hd with rfl | hd
      · exact hc
      · exact ih h d hd

/-- Digits are read if there are some and nothing else, and then as their clamped number. -/
theorem digits?_eq_some_iff {negative : Bool} {ds : List Char} {value : Int} :
    digits? negative ds = some value ↔ ds ≠ [] ∧ (∀ c ∈ ds, c.isDigit = true) ∧
      value = clamp (signed negative (Nat.ofDigitChars 10 ds 0)) := by
  have hstart : (0 : Int) = clamp (signed negative 0) := by cases negative <;> rfl
  by_cases hne : ds = []
  · simp [digits?, hne]
  rw [digits?, if_neg hne]
  refine ⟨fun h => ?_, fun h => ?_⟩
  · have hds := isDigit_of_foldlM_appendDigit h
    rw [hstart, foldlM_appendDigit hds] at h
    exact ⟨hne, hds, by simpa using h.symm⟩
  · obtain ⟨-, hds, rfl⟩ := h
    rw [hstart, foldlM_appendDigit hds]

/-! ## Reading words -/

/-- **Exactly the numerals are read**, and each as its number, cut off at the 64-bit limits. -/
theorem integer?_eq_some_iff {w : List Char} {value : Int} :
    integer? w = some value ↔ ∃ z, Denotes w z ∧ value = clamp z := by
  refine ⟨fun h => ?_, fun h => ?_⟩
  · unfold integer? at h
    split at h
    · obtain ⟨hne, hds, rfl⟩ := digits?_eq_some_iff.1 h
      exact ⟨_, .minus hne hds, rfl⟩
    · obtain ⟨hne, hds, rfl⟩ := digits?_eq_some_iff.1 h
      exact ⟨_, .plus hne hds, rfl⟩
    · obtain ⟨hne, hds, rfl⟩ := digits?_eq_some_iff.1 h
      exact ⟨_, .unsigned hne hds, rfl⟩
  · obtain ⟨z, hz, rfl⟩ := h
    cases hz with
    | plus hne hds | minus hne hds => exact digits?_eq_some_iff.2 ⟨hne, hds, rfl⟩
    | unsigned hne hds =>
      -- the first character is a digit, hence no sign
      obtain ⟨c, cs, rfl⟩ := List.exists_cons_of_ne_nil hne
      have hc := hds c (by simp)
      unfold integer?
      split
      · rename_i heq
        obtain ⟨rfl, -⟩ := List.cons.inj heq
        cases hc
      · rename_i heq
        obtain ⟨rfl, -⟩ := List.cons.inj heq
        cases hc
      · exact digits?_eq_some_iff.2 ⟨hne, hds, rfl⟩

/-- A number is written by its decimal digits. -/
theorem toList_toString (n : Nat) : (toString n).toList = Nat.toDigits 10 n := by
  rw [Nat.toString_eq_repr, Nat.toList_repr]

/-- Nothing but digits is written for a number. -/
theorem isDigit_of_mem_toString {n : Nat} {c : Char} (h : c ∈ (toString n).toList) :
    c.isDigit = true := by
  rw [toList_toString] at h
  exact Nat.isDigit_of_mem_toDigits (by decide) (by decide) h

/-- A number is written as a numeral of it. -/
theorem denotes_toString (n : Nat) : Denotes (toString n).toList n := by
  have hdigits : ∀ c ∈ Nat.toDigits 10 n, c.isDigit = true := fun _ hc =>
    isDigit_of_mem_toString (by rwa [toList_toString])
  have hdenotes := Denotes.unsigned Nat.toDigits_ne_nil hdigits
  rwa [Nat.ofDigitChars_ten_toDigits, ← toList_toString] at hdenotes

/-- A word is a numeral of one number only. -/
theorem Denotes.unique {w : List Char} {z z' : Int} (h : Denotes w z) (h' : Denotes w z') :
    z = z' := by
  cases h with
  | unsigned _ hds =>
    cases h' with
    | unsigned => rfl
    | plus | minus => simp [Char.isDigit] at hds
  | plus =>
    cases h' with
    | unsigned _ hds => simp [Char.isDigit] at hds
    | plus => rfl
  | minus =>
    cases h' with
    | unsigned _ hds => simp [Char.isDigit] at hds
    | minus => rfl

end SetCalculator.Text
