import SetCalculator.Proofs.MemberSet.Rendering
import SetCalculator.Proofs.MemberSet.Size
import SetCalculator.Proofs.Text.DigitRuns
import SetCalculator.Proofs.Text.Offsets

/-!
# The length of a set text

The length of the text is computed without the text: the bits are counted for the number of members,
a table of two bounds gives the digits of each member, and every separator is taken to be two bytes.
`renderedLength_eq_utf8ByteSize` says that this is the length in bytes. The table is right up to
three digits (`digitCount_eq_utf8ByteSize`), and it does not matter which of the separators ends a
row (`utf8ByteSize_renderAfter`).
-/

namespace SetCalculator

open Text

/-! ## Digits -/

/-- A digit takes one byte. -/
theorem byteLength_of_isDigit {ds : List Char} (h : ∀ c ∈ ds, c.isDigit = true) :
    byteLength ds = ds.length := by
  induction ds with
  | nil => rfl
  | cons c ds ih =>
    obtain ⟨hc, hds⟩ := List.forall_mem_cons.1 h
    have hsize : c.utf8Size = 1 := by
      have hrange := Char.isDigit_iff_toNat.1 hc
      have hnine : '9'.toNat = 57 := rfl
      rw [Char.utf8Size_eq_one_iff, UInt32.le_iff_toNat_le]
      show c.toNat ≤ 127
      omega
    rw [byteLength_cons, ih hds, hsize, List.length_cons, Nat.add_comm]

/-- A number takes one byte for each of its digits. -/
theorem utf8ByteSize_toString (n : Nat) :
    (toString n).utf8ByteSize = (Nat.toDigits 10 n).length := by
  have hsize : (toString n).utf8ByteSize = (encode (toString n)).length := rfl
  rw [hsize, ← String.ofList_toList (s := toString n), length_encode,
    byteLength_of_isDigit fun _ => isDigit_of_mem_toString, toList_toString]

namespace MemberSet

/-- **The table of digits is right** for numbers of up to three digits. -/
theorem digitCount_eq_utf8ByteSize {m : Nat} (h : m < 1000) :
    digitCount m = (toString m).utf8ByteSize := by
  rw [utf8ByteSize_toString]
  have hpos : 0 < (Nat.toDigits 10 m).length := Nat.length_toDigits_pos
  have hone : (Nat.toDigits 10 m).length ≤ 1 ↔ m < 10 ^ 1 :=
    Nat.length_toDigits_le_iff (by decide) (by decide)
  have htwo : (Nat.toDigits 10 m).length ≤ 2 ↔ m < 10 ^ 2 :=
    Nat.length_toDigits_le_iff (by decide) (by decide)
  have hthree : (Nat.toDigits 10 m).length ≤ 3 ↔ m < 10 ^ 3 :=
    Nat.length_toDigits_le_iff (by decide) (by decide)
  unfold digitCount
  split
  · omega
  · split <;> omega

/-- The members after some others take their digits, and two bytes each for the separators. -/
theorem utf8ByteSize_renderAfter {ms : List Nat} (h : ∀ m ∈ ms, m < 1000) (count : Nat) :
    (renderAfter count ms).utf8ByteSize = (ms.map digitCount).sum + 2 * ms.length := by
  induction ms generalizing count with
  | nil => rfl
  | cons m ms ih =>
    obtain ⟨hm, hms⟩ := List.forall_mem_cons.1 h
    rw [renderAfter, String.utf8ByteSize_append, String.utf8ByteSize_append, ih hms,
      utf8ByteSize_separator, ← digitCount_eq_utf8ByteSize hm, List.map_cons, List.sum_cons,
      List.length_cons]
    omega

/-- Members in braces take their digits, two bytes for each separator and two for the braces; a
separator with a line feed is as long as one with a space. -/
theorem utf8ByteSize_renderMembers {m : Nat} {ms : List Nat} (h : ∀ k ∈ m :: ms, k < 1000) :
    (renderMembers (m :: ms)).utf8ByteSize =
      2 + ((m :: ms).map digitCount).sum + 2 * ms.length := by
  obtain ⟨hm, hms⟩ := List.forall_mem_cons.1 h
  have hopen : "\x7b".utf8ByteSize = 1 := rfl
  have hclose : "\x7d".utf8ByteSize = 1 := rfl
  rw [renderMembers, String.utf8ByteSize_append, String.utf8ByteSize_append,
    String.utf8ByteSize_append, utf8ByteSize_renderAfter hms, hopen, hclose,
    ← digitCount_eq_utf8ByteSize hm, List.map_cons, List.sum_cons]
  omega

/-- **The length of the text is known without the text.** -/
theorem renderedLength_eq_utf8ByteSize (s : MemberSet) :
    s.renderedLength = s.render.utf8ByteSize := by
  have hlt : ∀ m ∈ s.toList, m < 1000 := fun m hm =>
    Nat.lt_trans (lt_of_mem_toList hm) (by decide)
  rw [renderedLength, size_eq_length, render_eq, ← List.sum_eq_foldr]
  cases hlist : s.toList with
  | nil => rfl
  | cons m ms =>
    rw [hlist] at hlt
    rw [if_neg (List.cons_ne_nil m ms), if_neg (by simp), utf8ByteSize_renderMembers hlt,
      List.length_cons, Nat.add_sub_cancel]

/-- **The computed length is the length of the text.** It is the number of bytes of the text in
UTF-8. Its terms are right one by one: the bits give the number of members, and the table gives the
bytes of each of them. The number from which one is taken is not zero, so that over the integers the
length is the same. -/
theorem renderedLength_counts_the_bytes (s : MemberSet) :
    s.renderedLength = (encode s.render).length ∧
    s.size = s.toList.length ∧ (∀ m ∈ s.toList, digitCount m = (encode (toString m)).length) ∧
    (s.size ≠ 0 → 1 ≤ s.size ∧
      (s.renderedLength : Int) =
        2 + ((s.toList.map digitCount).sum : Int) + 2 * ((s.size : Int) - 1)) := by
  refine ⟨s.renderedLength_eq_utf8ByteSize, s.size_eq_length, fun m hm => ?_, fun hsize => ?_⟩
  · exact digitCount_eq_utf8ByteSize (Nat.lt_trans (lt_of_mem_toList hm) (by decide))
  · have hpos : 1 ≤ s.size := Nat.pos_of_ne_zero hsize
    refine ⟨hpos, ?_⟩
    rw [renderedLength, if_neg hsize, ← List.sum_eq_foldr]
    omega

/-- All members of the universe: eight rows, and digits of each width. -/
theorem renderedLength_counts_the_bytes_of_the_universe :
    let s := ofList (List.range 128)
    s.size ≠ 0 ∧ 1 ≤ s.size ∧ (encode s.render).length = 530 ∧
    (530 : Int) = 2 + 274 + 2 * (128 - 1) ∧
    100 ∈ s.toList ∧ digitCount 100 = (encode (toString 100)).length := by
  intro s
  have hsize : s.size = 128 := by decide +kernel
  have hlength : s.renderedLength = 530 := by decide +kernel
  have hdigits : (s.toList.map digitCount).sum = 274 := by decide +kernel
  have hmem : 100 ∈ s.toList := by decide +kernel
  obtain ⟨hbytes, -, hcount, hexact⟩ := renderedLength_counts_the_bytes s
  obtain ⟨hpos, hterms⟩ := hexact (by omega)
  rw [hlength, hdigits, hsize] at hterms
  exact ⟨by omega, hpos, hbytes.symm.trans hlength, hterms, hmem, hcount 100 hmem⟩

end MemberSet

end SetCalculator
