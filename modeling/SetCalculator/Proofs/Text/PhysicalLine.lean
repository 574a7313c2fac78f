import Mathlib.Data.List.Basic
import SetCalculator.Failure

/-!
# Lines of bytes and lines of characters

`SplitsInto feed ret text pieces` says how a text falls apart into lines: at each `feed`, together
with one `ret` before it, and with a last line only if something follows the last `feed`. Every text
has such a list of pieces (`exists_splitsInto`), and for bytes it is the one that `physicalLines`
computes (`splitsInto_iff`).

The encoding writes no character but the line feed with the byte of the line feed
(`toNat_of_mem_encode`). So a text may be cut into lines before it is encoded or after
(`SplitsInto.encode`).
-/

namespace SetCalculator.Text

/-- `pieces` are the lines of the text, in order and without their ends. -/
inductive SplitsInto {α : Type} (feed ret : α) : List α → List (List α) → Prop
  /-- Without text there is no line. -/
  | nil : SplitsInto feed ret [] []
  /-- What follows the last feed is a line as it is. -/
  | unended {piece : List α} : piece ≠ [] → feed ∉ piece → SplitsInto feed ret piece [piece]
  /-- A feed alone ends a line. -/
  | feed {piece rest : List α} {pieces : List (List α)} : feed ∉ piece →
    piece.getLast? ≠ some ret → SplitsInto feed ret rest pieces →
    SplitsInto feed ret (piece ++ feed :: rest) (piece :: pieces)
  /-- A return and a feed end a line together. -/
  | returnFeed {piece rest : List α} {pieces : List (List α)} : feed ∉ piece →
    SplitsInto feed ret rest pieces →
    SplitsInto feed ret (piece ++ ret :: feed :: rest) (piece :: pieces)

/-- Every text falls apart into lines. -/
theorem exists_splitsInto {α : Type} [DecidableEq α] (feed ret : α) (text : List α) :
    ∃ pieces, SplitsInto feed ret text pieces := by
  induction hlength : text.length using Nat.strongRecOn generalizing text with
  | ind n ih =>
  by_cases hfeed : feed ∈ text
  · obtain ⟨piece, rest, rfl, hpiece⟩ := List.eq_append_cons_of_mem hfeed
    have hlt : rest.length < n := by
      simp only [List.length_append, List.length_cons] at hlength
      omega
    obtain ⟨pieces, hrest⟩ := ih rest.length hlt rest rfl
    -- A return right before the feed belongs to the end of the line.
    by_cases hlast : piece.getLast? = some ret
    · obtain ⟨start, rfl⟩ := List.getLast?_eq_some_iff.1 hlast
      have hstart : feed ∉ start := fun h => hpiece (List.mem_append_left _ h)
      refine ⟨start :: pieces, ?_⟩
      rw [List.append_assoc]
      exact .returnFeed hstart hrest
    · exact ⟨piece :: pieces, .feed hpiece hlast hrest⟩
  · by_cases hne : text = []
    · subst hne
      exact ⟨[], .nil⟩
    · exact ⟨[text], .unended hne hfeed⟩

/-- A piece with its return still holds no feed. -/
theorem notMem_concat {α : Type} {feed ret : α} {piece : List α} (h : feed ∉ piece)
    (hne : feed ≠ ret) : feed ∉ piece ++ [ret] := by
  intro hmem
  rcases List.mem_append.1 hmem with hmem | hmem
  · exact h hmem
  · exact hne (List.mem_singleton.1 hmem)

/-- No line holds a feed. -/
theorem SplitsInto.notMem {α : Type} {feed ret : α} {text : List α} {pieces : List (List α)}
    (h : SplitsInto feed ret text pieces) : ∀ piece ∈ pieces, feed ∉ piece := by
  induction h with
  | nil => exact List.forall_mem_nil _
  | unended _ hno => exact List.forall_mem_singleton.2 hno
  | feed hno _ _ ih => exact List.forall_mem_cons.2 ⟨hno, ih⟩
  | returnFeed hno _ ih => exact List.forall_mem_cons.2 ⟨hno, ih⟩

/-- A line holds nothing that the text does not hold. -/
theorem SplitsInto.subset {α : Type} {feed ret : α} {text : List α} {pieces : List (List α)}
    (h : SplitsInto feed ret text pieces) : ∀ piece ∈ pieces, piece ⊆ text := by
  induction h with
  | nil => exact List.forall_mem_nil _
  | unended => exact List.forall_mem_singleton.2 fun _ hx => hx
  | feed _ _ _ ih =>
    refine List.forall_mem_cons.2 ⟨List.subset_append_left _ _, ?_⟩
    intro piece hpiece
    exact List.subset_append_of_subset_right _ (List.subset_cons_of_subset _ (ih piece hpiece))
  | returnFeed _ _ ih =>
    refine List.forall_mem_cons.2 ⟨List.subset_append_left _ _, ?_⟩
    intro piece hpiece
    exact List.subset_append_of_subset_right _
      (List.subset_cons_of_subset _ (List.subset_cons_of_subset _ (ih piece hpiece)))

/-- Besides feeds and returns a text holds nothing but what its lines hold. -/
theorem SplitsInto.mem_cases {α : Type} {feed ret x : α} {text : List α} {pieces : List (List α)}
    (h : SplitsInto feed ret text pieces) (hx : x ∈ text) :
    x = feed ∨ x = ret ∨ ∃ piece ∈ pieces, x ∈ piece := by
  induction h with
  | nil => cases hx
  | unended => exact .inr (.inr ⟨_, List.mem_singleton_self _, hx⟩)
  | @feed piece rest pieces _ _ _ ih =>
    simp only [List.mem_append, List.mem_cons] at hx
    rcases hx with hx | rfl | hx
    · exact .inr (.inr ⟨piece, List.mem_cons_self, hx⟩)
    · exact .inl rfl
    · exact (ih hx).imp_right (.imp_right List.exists_mem_cons_of_exists)
  | @returnFeed piece rest pieces _ _ ih =>
    simp only [List.mem_append, List.mem_cons] at hx
    rcases hx with hx | rfl | rfl | hx
    · exact .inr (.inr ⟨piece, List.mem_cons_self, hx⟩)
    · exact .inr (.inl rfl)
    · exact .inl rfl
    · exact (ih hx).imp_right (.imp_right List.exists_mem_cons_of_exists)

/-- The first lines of a text are the lines of a beginning of it. -/
theorem SplitsInto.exists_take {α : Type} {feed ret : α} {text : List α} {pieces : List (List α)}
    (h : SplitsInto feed ret text pieces) (n : Nat) :
    ∃ head rest, text = head ++ rest ∧ SplitsInto feed ret head (pieces.take n) := by
  induction h generalizing n with
  | nil =>
    rw [List.take_nil]
    exact ⟨[], [], rfl, .nil⟩
  | @unended piece hne hno =>
    cases n with
    | zero => exact ⟨[], piece, rfl, .nil⟩
    | succ n =>
      rw [List.take_succ_cons, List.take_nil]
      exact ⟨piece, [], (List.append_nil piece).symm, .unended hne hno⟩
  | @feed piece rest pieces hno hlast _ ih =>
    cases n with
    | zero => exact ⟨[], _, rfl, .nil⟩
    | succ n =>
      obtain ⟨head, others, rfl, hhead⟩ := ih n
      refine ⟨piece ++ feed :: head, others, ?_, .feed hno hlast hhead⟩
      rw [List.append_assoc, List.cons_append]
  | @returnFeed piece rest pieces hno _ ih =>
    cases n with
    | zero => exact ⟨[], _, rfl, .nil⟩
    | succ n =>
      obtain ⟨head, others, rfl, hhead⟩ := ih n
      refine ⟨piece ++ ret :: feed :: head, others, ?_, .returnFeed hno hhead⟩
      rw [List.append_assoc, List.cons_append, List.cons_append]

/-- Lines without a feed and without a return at the end are the lines of the text in which a feed
follows each of them. -/
theorem splitsInto_flatMap {α : Type} {feed ret : α} {lines : List (List α)}
    (h : ∀ line ∈ lines, feed ∉ line ∧ line.getLast? ≠ some ret) :
    SplitsInto feed ret (lines.flatMap (· ++ [feed])) lines := by
  induction lines with
  | nil => exact .nil
  | cons line lines ih =>
    obtain ⟨hline, hlines⟩ := List.forall_mem_cons.1 h
    rw [List.flatMap_cons, List.append_assoc]
    exact .feed hline.1 hline.2 (ih hlines)

/-! ## The computed lines -/

@[simp] theorem dropCarriageReturn_concat (piece : List UInt8) :
    dropCarriageReturn (piece ++ [carriageReturn]) = piece := by
  simp [dropCarriageReturn]

/-- Nothing is dropped of a piece that does not end with a carriage return. -/
theorem dropCarriageReturn_of_ne {piece : List UInt8}
    (h : piece.getLast? ≠ some carriageReturn) : dropCarriageReturn piece = piece := by
  rw [dropCarriageReturn, if_neg h]

/-- Bytes without a line feed are one line, with any carriage return they end with. -/
theorem physicalLines_of_notMem {piece : List UInt8} (hne : piece ≠ [])
    (h : lineFeed ∉ piece) : physicalLines piece = [piece] := by
  simp [physicalLines, List.splitOn_eq_singleton h, Option.filter, hne]

/-- The first line ends at the first line feed, without a carriage return before it. -/
theorem physicalLines_append {piece : List UInt8} (h : lineFeed ∉ piece) (rest : List UInt8) :
    physicalLines (piece ++ lineFeed :: rest) =
      dropCarriageReturn piece :: physicalLines rest := by
  have hrest := List.splitOn_ne_nil lineFeed rest
  simp only [physicalLines, List.splitOn_append_cons_self_of_not_mem h rest,
    List.dropLast_cons_of_ne_nil hrest, List.getLast?_cons_of_ne_nil hrest, List.map_cons,
    List.cons_append]

/-- Bytes can be split in one way only. -/
theorem SplitsInto.eq_physicalLines {bytes : List UInt8} {pieces : List (List UInt8)}
    (h : SplitsInto lineFeed carriageReturn bytes pieces) : pieces = physicalLines bytes := by
  induction h with
  | nil => rfl
  | unended hne hno => exact (physicalLines_of_notMem hne hno).symm
  | feed hno hlast _ ih => rw [physicalLines_append hno, dropCarriageReturn_of_ne hlast, ih]
  | @returnFeed piece rest pieces hno _ ih =>
    have hno' : lineFeed ∉ piece ++ [carriageReturn] := notMem_concat hno (by decide)
    rw [List.append_cons, physicalLines_append hno', dropCarriageReturn_concat, ih]

/-- **An input has exactly one list of lines**, and `physicalLines` computes it. -/
theorem splitsInto_iff {bytes : List UInt8} {pieces : List (List UInt8)} :
    SplitsInto lineFeed carriageReturn bytes pieces ↔ pieces = physicalLines bytes := by
  refine ⟨SplitsInto.eq_physicalLines, ?_⟩
  rintro rfl
  obtain ⟨pieces, h⟩ := exists_splitsInto lineFeed carriageReturn bytes
  rwa [h.eq_physicalLines] at h

/-- Bytes are split into their physical lines. -/
theorem splitsInto_physicalLines (bytes : List UInt8) :
    SplitsInto lineFeed carriageReturn bytes (physicalLines bytes) := splitsInto_iff.2 rfl

/-- What follows a line feed is split on its own. -/
theorem physicalLines_append_lineFeed (head rest : List UInt8) :
    physicalLines (head ++ lineFeed :: rest) =
      physicalLines (head ++ [lineFeed]) ++ physicalLines rest := by
  have hrest := List.splitOn_ne_nil lineFeed rest
  have hends : physicalLines (head ++ [lineFeed]) =
      (head.splitOn lineFeed).map dropCarriageReturn := by
    simp [physicalLines, List.splitOn_append_cons_self, Option.filter]
  have hlast : (head.splitOn lineFeed ++ rest.splitOn lineFeed).getLast? =
      (rest.splitOn lineFeed).getLast? := by
    rw [List.getLast?_append, List.getLast?_eq_some_getLast hrest, Option.some_or]
  rw [hends]
  simp only [physicalLines, List.splitOn_append_cons_self, hlast]
  rw [List.dropLast_append_of_ne_nil hrest, List.map_append, List.append_assoc]

/-! ## Encoded characters -/

/-- A byte below 128 encodes the character with this number, and is not part of any other. -/
theorem toNat_of_mem_utf8EncodeChar {c : Char} {b : UInt8} (h : b ∈ String.utf8EncodeChar c)
    (hb : b.toNat < 128) : c.toNat = b.toNat := by
  have hval : c.val.toNat = c.toNat := rfl
  rw [String.utf8EncodeChar] at h
  simp only [hval] at h
  -- Every byte of a longer form is at least 128.
  split at h
  · obtain rfl := List.mem_singleton.1 h
    rw [UInt8.toNat_ofNat']
    omega
  · exfalso
    split at h
    · simp only [List.mem_cons, List.not_mem_nil, or_false] at h
      rcases h with rfl | rfl <;> simp at hb <;> omega
    · split at h
      · simp only [List.mem_cons, List.not_mem_nil, or_false] at h
        rcases h with rfl | rfl | rfl <;> simp at hb <;> omega
      · simp only [List.mem_cons, List.not_mem_nil, or_false] at h
        rcases h with rfl | rfl | rfl | rfl <;> simp at hb <;> omega

/-- A text is encoded character by character. -/
theorem encode_ofList (cs : List Char) :
    encode (String.ofList cs) = cs.flatMap String.utf8EncodeChar := by
  rw [encode, String.toUTF8, String.toByteArray_ofList]
  exact List.toList_data_toByteArray

/-- Texts that are put together are encoded one after the other. -/
theorem encode_append (as bs : List Char) :
    encode (String.ofList (as ++ bs)) = encode (String.ofList as) ++ encode (String.ofList bs) := by
  rw [encode_ofList, encode_ofList, encode_ofList, List.flatMap_append]

/-- A byte below 128 in an encoded text is the number of one of its characters. -/
theorem toNat_of_mem_encode {cs : List Char} {b : UInt8} (h : b ∈ encode (String.ofList cs))
    (hb : b.toNat < 128) : ∃ c ∈ cs, c.toNat = b.toNat := by
  rw [encode_ofList] at h
  obtain ⟨c, hc, hbc⟩ := List.mem_flatMap.1 h
  exact ⟨c, hc, toNat_of_mem_utf8EncodeChar hbc hb⟩

/-- A character below 128 is found in the encoded text only where it is in the text. -/
theorem notMem_encode {c : Char} {b : UInt8} (hb : b.toNat < 128) (hc : c.toNat = b.toNat)
    {cs : List Char} (h : c ∉ cs) : b ∉ encode (String.ofList cs) := by
  intro hmem
  obtain ⟨d, hd, hnat⟩ := toNat_of_mem_encode hmem hb
  have hdc : d = c := Char.toNat_inj.1 (hnat.trans hc.symm)
  exact h (hdc ▸ hd)

/-- A line that was read from a piece holds no character whose byte is not in the piece. -/
theorem char_notMem_of_decode? {c : Char} {b : UInt8} (hb : b ∈ String.utf8EncodeChar c)
    {piece : List UInt8} {line : String} (h : decode? piece = some line) (hno : b ∉ piece) :
    c ∉ line.toList := by
  intro hmem
  apply hno
  rw [← encode_of_decode? h, ← String.ofList_toList (s := line), encode_ofList]
  exact List.mem_flatMap.2 ⟨c, hmem, hb⟩

/-- A line that was read from a piece without a line feed has none. -/
theorem notMem_of_decode? {piece : List UInt8} {line : String} (h : decode? piece = some line)
    (hno : lineFeed ∉ piece) : '\n' ∉ line.toList :=
  char_notMem_of_decode? (by decide) h hno

/-- Only the empty text has no bytes. -/
theorem encode_eq_nil_iff {cs : List Char} : encode (String.ofList cs) = [] ↔ cs = [] := by
  rw [encode_ofList]
  cases cs with
  | nil => simp
  | cons c cs => simp [String.utf8EncodeChar_ne_nil]

/-- The bytes of a text end with a carriage return only if the text does. -/
theorem getLast?_encode_ne {cs : List Char} (h : cs.getLast? ≠ some '\r') :
    (encode (String.ofList cs)).getLast? ≠ some carriageReturn := by
  rcases List.eq_nil_or_concat cs with rfl | ⟨start, c, rfl⟩
  · decide
  · rw [List.concat_eq_append] at h ⊢
    rw [encode_append, List.getLast?_append]
    have hc : encode (String.ofList [c]) = String.utf8EncodeChar c := by
      rw [encode_ofList]
      exact List.append_nil _
    have hne : String.utf8EncodeChar c ≠ [] := String.utf8EncodeChar_ne_nil
    rw [hc, List.getLast?_eq_some_getLast hne, Option.some_or]
    intro hlast
    have hmem : carriageReturn ∈ String.utf8EncodeChar c := by
      rw [← Option.some_inj.1 hlast]
      exact List.getLast_mem hne
    have hnat := toNat_of_mem_utf8EncodeChar hmem (by decide)
    have hret : c = '\r' := Char.toNat_inj.1 hnat
    exact h (by simp [hret])

/-- **The lines of an encoded text are the encoded lines of the text.** -/
theorem SplitsInto.encode {text : List Char} {pieces : List (List Char)}
    (h : SplitsInto '\n' '\r' text pieces) :
    SplitsInto lineFeed carriageReturn (encode (String.ofList text))
      (pieces.map fun piece => Text.encode (String.ofList piece)) := by
  have hfeed : ∀ {cs : List Char}, '\n' ∉ cs → lineFeed ∉ Text.encode (String.ofList cs) :=
    fun hcs => notMem_encode (by decide) (by decide) hcs
  induction h with
  | nil => exact .nil
  | unended hne hno => exact .unended (fun hnil => hne (encode_eq_nil_iff.1 hnil)) (hfeed hno)
  | feed hno hlast _ ih =>
    rw [← List.singleton_append, encode_append, encode_append]
    exact .feed (hfeed hno) (getLast?_encode_ne hlast) ih
  | @returnFeed piece rest pieces hno _ ih =>
    have hends : Text.encode (String.ofList ('\r' :: '\n' :: rest)) =
        carriageReturn :: lineFeed :: Text.encode (String.ofList rest) :=
      encode_append ['\r', '\n'] rest
    rw [encode_append, hends]
    exact .returnFeed (hfeed hno) ih

end SetCalculator.Text

namespace SetCalculator

open Text

/-- What comes out of an input is a physical line, as its text or as the error that it is none. -/
theorem mem_inputLines {bytes : List UInt8} {input : InputLine} (h : input ∈ inputLines bytes) :
    input = .error .notText ∨
    ∃ piece ∈ physicalLines bytes, ∃ line, decode? piece = some line ∧ input = .ok line := by
  obtain ⟨piece, hpiece, rfl⟩ := List.mem_map.1 h
  cases hdecode : decode? piece with
  | none => exact .inl (by simp only [InputLine.ofBytes, hdecode])
  | some line =>
    exact .inr ⟨piece, hpiece, line, hdecode, by simp only [InputLine.ofBytes, hdecode]⟩

/-- The lines of an encoded text are read as they stand in the text. -/
theorem inputLines_encode {text : List Char} {pieces : List (List Char)}
    (h : SplitsInto '\n' '\r' text pieces) :
    inputLines (encode (String.ofList text)) =
      pieces.map fun piece => .ok (String.ofList piece) := by
  rw [inputLines, ← h.encode.eq_physicalLines, List.map_map]
  apply List.map_congr_left
  intro piece _
  simp only [Function.comp_apply, InputLine.ofBytes, decode?_encode]

end SetCalculator
