import Mathlib.Algebra.Group.Int.Defs
import SetCalculator.Proofs.Text.Numeral
import SetCalculator.Proofs.Text.Offsets

/-!
# Reading at the limits

`IsNumeral w` says what a word must look like to be read as an integer; the words of this form are
those that denote one (`exists_denotes_iff`). No other word has a value (`integer?_eq_none_iff`),
and a numeral of any length has its exact value, cut off once at the 64-bit limits
(`integer?_of_denotes`).

Reading takes no step outside the limits: after any digits the value is the exact one of these
digits, cut off, and neither the product nor the sum that the next digit asks for is kept unless it
was cut off, too (`appendDigit_stays_within`). The sign is told by the first byte of the word, and
since both signs take one byte, the digits after it are again a text (`sign_of_first_byte`).
-/

namespace SetCalculator.Text

/-- The word is at most one sign, at least one ASCII digit, and nothing else. -/
def IsNumeral (w : List Char) : Prop :=
  ∃ sign ds, (sign = [] ∨ sign = ['+'] ∨ sign = ['-']) ∧ w = sign ++ ds ∧ ds ≠ [] ∧
    ∀ c ∈ ds, c.isDigit = true

/-- The number lies within the limits of 64 bits. -/
def FitsWord (z : Int) : Prop := -2 ^ 63 ≤ z ∧ z ≤ 2 ^ 63 - 1

/-- A clamped number fits into a machine word. -/
theorem fitsWord_clamp (z : Int) : FitsWord (clamp z) := clamp_mem z

/-! ## Which words are read -/

/-- The words of the form of a numeral are those that denote a number. -/
theorem exists_denotes_iff {w : List Char} : (∃ z, Denotes w z) ↔ IsNumeral w := by
  refine ⟨fun h => ?_, fun h => ?_⟩
  · obtain ⟨z, hz⟩ := h
    cases hz with
    | unsigned hne hds => exact ⟨[], w, .inl rfl, rfl, hne, hds⟩
    | @plus ds hne hds => exact ⟨['+'], ds, .inr (.inl rfl), rfl, hne, hds⟩
    | @minus ds hne hds => exact ⟨['-'], ds, .inr (.inr rfl), rfl, hne, hds⟩
  · obtain ⟨sign, ds, hsign, rfl, hne, hds⟩ := h
    rcases hsign with rfl | rfl | rfl
    · exact ⟨_, .unsigned hne hds⟩
    · exact ⟨_, .plus hne hds⟩
    · exact ⟨_, .minus hne hds⟩

/-- **A numeral is read as its number**, cut off at the limits. -/
theorem integer?_of_denotes {w : List Char} {z : Int} (h : Denotes w z) :
    integer? w = some (clamp z) :=
  integer?_eq_some_iff.2 ⟨z, h, rfl⟩

/-- **No other word is read.** -/
theorem integer?_eq_none_iff {w : List Char} : integer? w = none ↔ ¬ IsNumeral w := by
  rw [← exists_denotes_iff]
  refine ⟨fun hnone h => ?_, fun h => ?_⟩
  · obtain ⟨z, hz⟩ := h
    rw [integer?_of_denotes hz] at hnone
    cases hnone
  · cases hvalue : integer? w with
    | none => rfl
    | some value =>
      obtain ⟨z, hz, -⟩ := integer?_eq_some_iff.1 hvalue
      exact absurd ⟨z, hz⟩ h

instance : DecidablePred IsNumeral := fun w =>
  decidable_of_iff ((integer? w).isSome = true) <| by
    rw [Option.isSome_iff_ne_none, ne_eq, integer?_eq_none_iff, not_not]

/-! ## One digit after another -/

/-- The first digits are read to their number, cut off at the limits. -/
theorem foldlM_appendDigit_eq {ds : List Char} (h : ∀ c ∈ ds, c.isDigit = true)
    (negative : Bool) : ds.foldlM (appendDigit negative) 0 =
      some (clamp (signed negative (Nat.ofDigitChars 10 ds 0))) := by
  have hstart : (0 : Int) = clamp (signed negative 0) := by cases negative <;> rfl
  rw [hstart, foldlM_appendDigit h]

/-- **No step leaves the limits.** A further digit is worth at most nine; the value so far, the
product that makes room for the digit and the value after it all lie within the limits, and the last
is again the exact number of the digits read, cut off. -/
theorem appendDigit_stays_within {read : List Char} {c : Char}
    (h : ∀ d ∈ read ++ [c], d.isDigit = true) (negative : Bool) :
    ∃ value d next, read.foldlM (appendDigit negative) 0 = some value ∧
      digitValue? c = some d ∧ appendDigit negative value c = some next ∧
      FitsWord value ∧ d ≤ 9 ∧ FitsWord (clamp (value * 10)) ∧ FitsWord next ∧
      next = clamp (signed negative (Nat.ofDigitChars 10 (read ++ [c]) 0)) := by
  have hc := h c (by simp)
  have hread : ∀ d ∈ read, d.isDigit = true := fun d hd => h d (by simp [hd])
  have hrange := Char.isDigit_iff_toNat.1 hc
  refine ⟨_, _, _, foldlM_appendDigit_eq hread negative, digitValue?_of_isDigit hc,
    appendDigit_clamp hc negative _, fitsWord_clamp _, ?_, fitsWord_clamp _, fitsWord_clamp _, ?_⟩
  · have hzero : '0'.toNat = 48 := rfl
    have hnine : '9'.toNat = 57 := rfl
    omega
  · rw [Nat.ofDigitChars_append]
    rfl

/-! ## The sign -/

/-- The first byte of an encoded text belongs to its first character. -/
theorem exists_of_encode_cons {c : Char} {ds : List Char} {b : UInt8} {bytes : List UInt8}
    (h : encode (String.ofList (c :: ds)) = b :: bytes) :
    ∃ more, String.utf8EncodeChar c = b :: more ∧ bytes = more ++ encode (String.ofList ds) := by
  obtain ⟨first, more, hc⟩ := List.exists_cons_of_ne_nil (String.utf8EncodeChar_ne_nil (c := c))
  rw [← List.singleton_append, encode_append, encode_ofList [c], List.flatMap_singleton, hc] at h
  obtain ⟨rfl, hbytes⟩ := List.cons.inj h
  exact ⟨more, hc, hbytes.symm⟩

/-- A byte below 128 at the start of an encoded text is a character of one byte, and the bytes
behind it are again a text. -/
theorem exists_eq_cons_of_encode {w : List Char} {b : UInt8} {bytes : List UInt8}
    (h : encode (String.ofList w) = b :: bytes) (hb : b.toNat < 128) {c : Char}
    (hc : String.utf8EncodeChar c = [b]) :
    ∃ ds, w = c :: ds ∧ bytes = encode (String.ofList ds) := by
  cases w with
  | nil =>
    rw [encode_eq_nil_iff.2 rfl] at h
    cases h
  | cons d ds =>
    obtain ⟨more, hd, rfl⟩ := exists_of_encode_cons h
    have hnat : d.toNat = c.toNat := by
      rw [toNat_of_mem_utf8EncodeChar (c := d) (by simp [hd]) hb,
        toNat_of_mem_utf8EncodeChar (c := c) (by simp [hc]) hb]
    obtain rfl := Char.toNat_inj.1 hnat
    obtain ⟨-, rfl⟩ := List.cons.inj (hd.symm.trans hc)
    exact ⟨ds, rfl, List.nil_append _⟩

/-- **The sign is told by the first byte.** If this is the byte of a sign, the word may be cut
behind it, and the bytes from there on are the digits that are read; otherwise the digits are the
word. -/
theorem sign_of_first_byte {w : List Char} {b : UInt8} {bytes : List UInt8}
    (h : encode (String.ofList w) = b :: bytes) :
    (b = 0x2D → ∃ ds, w = '-' :: ds ∧ IsOffset w 1 ∧ bytes = encode (String.ofList ds) ∧
      integer? w = digits? true ds) ∧
    (b = 0x2B → ∃ ds, w = '+' :: ds ∧ IsOffset w 1 ∧ bytes = encode (String.ofList ds) ∧
      integer? w = digits? false ds) ∧
    (b ≠ 0x2D → b ≠ 0x2B → integer? w = digits? false w) := by
  refine ⟨?_, ?_, fun hminus hplus => ?_⟩
  · rintro rfl
    obtain ⟨ds, rfl, hbytes⟩ := exists_eq_cons_of_encode h (by decide) (c := '-') (by decide)
    exact ⟨ds, rfl, isOffset_byteLength ['-'] ds, hbytes, rfl⟩
  · rintro rfl
    obtain ⟨ds, rfl, hbytes⟩ := exists_eq_cons_of_encode h (by decide) (c := '+') (by decide)
    exact ⟨ds, rfl, isOffset_byteLength ['+'] ds, hbytes, rfl⟩
  · unfold integer?
    split
    · obtain ⟨more, hc, -⟩ := exists_of_encode_cons h
      exact absurd (List.cons.inj hc).1.symm hminus
    · obtain ⟨more, hc, -⟩ := exists_of_encode_cons h
      exact absurd (List.cons.inj hc).1.symm hplus
    · rfl

/-- **Reading is exact up to the limits, for every word.** A word has no value exactly if it is no
numeral, and a numeral, which denotes a number, has the value of this number cut off once. After any
digits the next one is read without leaving the limits. The first byte of the word decides whether
there is a sign, and behind a sign the word may be cut. -/
theorem integer_is_exact_up_to_the_limits (w : List Char) :
    (integer? w = none ↔ ¬ IsNumeral w) ∧
    (IsNumeral w → ∃ z, Denotes w z) ∧
    (∀ z, Denotes w z → integer? w = some (max (-2 ^ 63) (min z (2 ^ 63 - 1)))) ∧
    (∀ negative read c, (∀ d ∈ read ++ [c], d.isDigit = true) → ∃ value d next,
      read.foldlM (appendDigit negative) 0 = some value ∧
      digitValue? c = some d ∧ appendDigit negative value c = some next ∧
      FitsWord value ∧ d ≤ 9 ∧ FitsWord (clamp (value * 10)) ∧ FitsWord next ∧
      next = clamp (signed negative (Nat.ofDigitChars 10 (read ++ [c]) 0))) ∧
    (∀ b bytes, encode (String.ofList w) = b :: bytes →
      (b = 0x2D → ∃ ds, w = '-' :: ds ∧ IsOffset w 1 ∧ bytes = encode (String.ofList ds) ∧
        integer? w = digits? true ds) ∧
      (b = 0x2B → ∃ ds, w = '+' :: ds ∧ IsOffset w 1 ∧ bytes = encode (String.ofList ds) ∧
        integer? w = digits? false ds) ∧
      (b ≠ 0x2D → b ≠ 0x2B → integer? w = digits? false w)) :=
  ⟨integer?_eq_none_iff, exists_denotes_iff.2, fun _ hz => integer?_of_denotes hz,
    fun negative _ _ hdigits => appendDigit_stays_within hdigits negative,
    fun _ _ => sign_of_first_byte⟩

/-- The last digit of a number that is just too small reaches the limit; and a word with a letter
behind digits that have reached the limit has no value. -/
theorem integer_is_exact_up_to_the_limits_below_the_least :
    let ds := "9223372036854775809".toList
    let w := '-' :: ds
    IsNumeral w ∧ (∃ z, Denotes w z) ∧
    Denotes w (-9223372036854775809) ∧ integer? w = some (-9223372036854775808) ∧
    (∃ value d next,
      "922337203685477580".toList.foldlM (appendDigit true) 0 = some value ∧
      digitValue? '9' = some d ∧ appendDigit true value '9' = some next ∧
      FitsWord value ∧ d ≤ 9 ∧ FitsWord (clamp (value * 10)) ∧ FitsWord next ∧
      next = -9223372036854775808) ∧
    (∃ ds', w = '-' :: ds' ∧ IsOffset w 1 ∧ encode (String.ofList ds) = encode (String.ofList ds') ∧
      integer? w = digits? true ds') ∧
    integer? (w ++ ['x']) = none := by
  intro ds w
  have hz : Denotes w (-9223372036854775809) := by
    have hvalue : -(Nat.ofDigitChars 10 ds 0 : Int) = -9223372036854775809 := by decide +kernel
    rw [← hvalue]
    exact .minus (by decide +kernel) (List.all_eq_true.1 (by decide +kernel))
  have hnumeral : IsNumeral w := by decide +kernel
  obtain ⟨-, hdenotes, hreads, hsteps, hsigns⟩ := integer_is_exact_up_to_the_limits w
  obtain ⟨hnone, -⟩ := integer_is_exact_up_to_the_limits (w ++ ['x'])
  obtain ⟨hminus, -, -⟩ := hsigns 0x2D (encode (String.ofList ds)) (by decide +kernel)
  exact ⟨hnumeral, hdenotes hnumeral, hz, hreads _ hz,
    hsteps true "922337203685477580".toList '9' (List.all_eq_true.1 (by decide +kernel)),
    hminus rfl, hnone.2 (by decide +kernel)⟩

end SetCalculator.Text
