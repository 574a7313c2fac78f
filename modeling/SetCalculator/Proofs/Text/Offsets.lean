import SetCalculator.Line.Token
import SetCalculator.Proofs.Text.PhysicalLine

/-!
# Offsets

A place in a text is told by its offset, the number of bytes before it in UTF-8. Not every number up
to the length of the text is the offset of a place: most characters that are not ASCII take several
bytes, and a text that is cut between two of these is no text any more. `IsOffset text n` says that
`n` is a place where the text may be cut, in the sense of the core library
(`String.Pos.Raw.IsValid`). The byte length of whatever stands in front is one
(`isOffset_byteLength`), and from there on the bytes of the text are the bytes of what stands behind
(`drop_encode_append`).
-/

namespace SetCalculator

open Text

/-- Whether a number of bytes leads to a place in the text that splits no character. -/
def IsOffset (text : List Char) (n : Nat) : Prop :=
  String.Pos.Raw.IsValid (String.ofList text) ⟨n⟩

instance (text : List Char) (n : Nat) : Decidable (IsOffset text n) :=
  inferInstanceAs (Decidable (String.Pos.Raw.IsValid (String.ofList text) ⟨n⟩))

/-! ## Byte lengths -/

@[simp] theorem byteLength_nil : byteLength [] = 0 := rfl

@[simp] theorem byteLength_cons (c : Char) (text : List Char) :
    byteLength (c :: text) = c.utf8Size + byteLength text := rfl

@[simp] theorem byteLength_append (before after : List Char) :
    byteLength (before ++ after) = byteLength before + byteLength after := by
  induction before with
  | nil => simp
  | cons c before ih => simp [ih, Nat.add_assoc]

/-- Every character takes a byte at least. -/
theorem length_le_byteLength (text : List Char) : text.length ≤ byteLength text := by
  induction text with
  | nil => exact Nat.le_refl 0
  | cons c text ih =>
    have hpos := c.utf8Size_pos
    rw [List.length_cons, byteLength_cons]
    omega

/-- A text that is not empty takes bytes. -/
theorem byteLength_pos {text : List Char} (h : text ≠ []) : 0 < byteLength text :=
  Nat.lt_of_lt_of_le (List.length_pos_iff.2 h) (length_le_byteLength text)

/-- The byte length is the number of bytes of the encoding. -/
theorem length_encode (text : List Char) :
    (encode (String.ofList text)).length = byteLength text := by
  rw [encode_ofList]
  induction text with
  | nil => rfl
  | cons c text ih =>
    rw [List.flatMap_cons, List.length_append, ih, String.length_utf8EncodeChar, byteLength_cons]

/-! ## Cutting a text -/

/-- Behind the bytes of the front of a text stand those of its rear. -/
theorem drop_encode_append (before after : List Char) :
    (encode (String.ofList (before ++ after))).drop (byteLength before) =
      encode (String.ofList after) := by
  rw [encode_append, ← length_encode, List.drop_left]

/-- The first bytes of a text are those of its front. -/
theorem take_encode_append (before after : List Char) :
    (encode (String.ofList (before ++ after))).take (byteLength before) =
      encode (String.ofList before) := by
  rw [encode_append, ← length_encode, List.take_left]

/-- The offset of a place is the byte length of what stands in front of it. -/
theorem isOffset_byteLength (before after : List Char) :
    IsOffset (before ++ after) (byteLength before) := by
  refine String.Pos.Raw.isValid_iff_exists_append.2
    ⟨String.ofList before, String.ofList after, String.ofList_append, ?_⟩
  rw [String.Pos.Raw.ext_iff]
  show byteLength before = (encode (String.ofList before)).length
  exact (length_encode before).symm

/-- No offset lies behind the end of the text. -/
theorem IsOffset.le_byteLength {text : List Char} {n : Nat} (h : IsOffset text n) :
    n ≤ byteLength text := by
  have hle : n ≤ (encode (String.ofList text)).length := h.le_rawEndPos
  rwa [length_encode] at hle

example : ¬ IsOffset "é,".toList 1 ∧ IsOffset "é,".toList 2 := by decide +kernel

end SetCalculator
