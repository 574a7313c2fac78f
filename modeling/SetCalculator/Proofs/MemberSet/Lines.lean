import SetCalculator.Proofs.MemberSet.Rendering
import SetCalculator.Proofs.MemberSet.Size
import SetCalculator.Proofs.Text.DigitRuns
import SetCalculator.Proofs.Text.OneLine

/-!
# The lines of a set text

A set with members is shown in rows of sixteen (`renderMembers_cons`), and a row is one line: the
members of the row, with the opening brace in front of the first row, a comma behind every row but
the last and the closing brace behind the last (`splitOn_renderMembers`). So the lines of the text
hold the members, sixteen each (`Wrapped`). With spaces for the line feeds the text is the inline
one (`map_renderMembers`).

Nothing else in the text has digits, so the numbers in it are the members (`numbersIn_render`). As
the sentence for the empty set has no digits either, the members of any set can be read from its
text, and sets of the same text are equal.
-/

namespace SetCalculator

open Text

/-! ## Rows of sixteen -/

/-- The rows, one after the other, are the members. -/
theorem flatten_rows (ms : List Nat) : (rows ms).flatten = ms := by
  fun_induction rows ms with
  | case1 => rfl
  | case2 m ms ih => rw [List.flatten_cons, ih, List.cons_append, List.take_append_drop]

/-- There are as many rows as sixteens have begun. -/
theorem length_rows (ms : List Nat) : (rows ms).length = (ms.length + 15) / 16 := by
  fun_induction rows ms with
  | case1 => rfl
  | case2 m ms ih =>
    rw [List.length_cons, ih, List.length_drop, List.length_cons]
    omega

/-- A row holds the sixteen members from its place on, or those that are left. -/
theorem getElem_rows (ms : List Nat) {i : Nat} (h : i < (rows ms).length) :
    (rows ms)[i] = (ms.drop (16 * i)).take 16 := by
  induction i generalizing ms with
  | zero =>
    cases ms with
    | nil => simp [rows] at h
    | cons m ms => simp [rows]
  | succ i ih =>
    cases ms with
    | nil => simp [rows] at h
    | cons m ms =>
      have hnext : 16 * (i + 1) = 15 + 16 * i + 1 := by omega
      simp only [rows, List.getElem_cons_succ]
      rw [ih, List.drop_drop, hnext, List.drop_succ_cons]

/-! ## The text of a row -/

/-- A row begins with its first member and a comma, if others follow. -/
theorem rowText_cons_cons (m k : Nat) (ms : List Nat) :
    rowText (m :: k :: ms) = toString m ++ ", " ++ rowText (k :: ms) := by
  simp only [rowText, List.map_cons, String.intercalate_cons_cons]

/-- A row is written on one line. -/
theorem oneLine_rowText (row : List Nat) : OneLine (rowText row) := by
  induction row with
  | nil => decide
  | cons m row ih =>
    cases row with
    | nil => simpa [rowText] using oneLine_toString m
    | cons k row =>
      rw [rowText_cons_cons, oneLine_append, oneLine_append]
      exact ⟨⟨oneLine_toString m, by decide⟩, ih⟩

/-- The runs of digits in a row are its members. -/
theorem digitRuns_rowText (row : List Nat) :
    digitRuns (rowText row).toList = row.map (Nat.toDigits 10) := by
  rw [rowText, String.toList_intercalate]
  refine (digitRuns_intercalate (by decide) (by decide) _).trans ?_
  rw [List.map_map, List.flatMap_map, List.map_eq_flatMap]
  simp only [Function.comp_apply, digitRuns_toString]

/-- The numbers in the text of a row are its members. -/
theorem numbersIn_rowText (row : List Nat) : numbersIn (rowText row).toList = row :=
  numbersIn_of_digitRuns (digitRuns_rowText row)

/-! ## Lines -/

/-- The lines of some rows: a comma stands behind each row but the last, and a brace behind the
last. -/
def closeRows : List (List Char) → List (List Char)
  | [] => []
  | [row] => [row ++ ['\x7d']]
  | row :: row' :: rows => (row ++ [',']) :: closeRows (row' :: rows)

/-- **Cut at the line feeds**, the text of some rows is the lines of these rows. -/
theorem splitOn_intercalate_rows {row : List Char} {rows : List (List Char)}
    (h : ∀ text ∈ row :: rows, '\n' ∉ text) :
    ([',', '\n'].intercalate (row :: rows) ++ ['\x7d']).splitOn '\n' = closeRows (row :: rows) := by
  induction rows generalizing row with
  | nil =>
    have hrow : '\n' ∉ row ++ ['\x7d'] := by simpa using h
    rw [List.intercalate_singleton, List.splitOn_eq_singleton hrow, closeRows]
  | cons row' rows ih =>
    obtain ⟨hrow, hrows⟩ := List.forall_mem_cons.1 h
    have hline : '\n' ∉ row ++ [','] := by simpa using hrow
    have hcut : [',', '\n'].intercalate (row :: row' :: rows) ++ ['\x7d'] =
        (row ++ [',']) ++ '\n' :: ([',', '\n'].intercalate (row' :: rows) ++ ['\x7d']) := by
      simp [List.intercalate_cons_cons]
    rw [hcut, List.splitOn_append_cons_self_of_not_mem hline, ih hrows, closeRows]

/-- What closes the rows has no digits. -/
theorem map_numbersIn_closeRows (rows : List (List Char)) :
    (closeRows rows).map numbersIn = rows.map numbersIn := by
  have hclosed : ∀ (row : List Char) (c : Char), c.isDigit = false →
      numbersIn (row ++ [c]) = numbersIn row := fun row c hc => by
    rw [numbersIn, digitRuns_concat hc, numbersIn]
  fun_induction closeRows rows with
  | case1 => rfl
  | case2 row => rw [List.map_singleton, List.map_singleton, hclosed row _ (by decide)]
  | case3 row row' rows ih =>
    rw [List.map_cons, hclosed row _ (by decide), ih]
    rfl

/-- Every line but the last ends with a comma. -/
theorem getLast?_closeRows {rows : List (List Char)} {i : Nat}
    (h : i + 1 < (closeRows rows).length) : (closeRows rows)[i].getLast? = some ',' := by
  fun_induction closeRows rows generalizing i with
  | case1 | case2 => simp [closeRows] at h
  | case3 row row' rows ih =>
    cases i with
    | zero => exact List.getLast?_concat
    | succ i => exact ih (Nat.lt_of_succ_lt_succ h)

/-- The members are shown by these lines, sixteen on each but the last. -/
structure Wrapped (ms : List Nat) (lines : List (List Char)) : Prop where
  length_eq : lines.length = (ms.length + 15) / 16
  numbers (i : Nat) (h : i < lines.length) : numbersIn lines[i] = (ms.drop (16 * i)).take 16
  inner (i : Nat) (h : i + 1 < lines.length) :
    (numbersIn lines[i]).length = 16 ∧ lines[i].getLast? = some ','
  last (i : Nat) (h : i + 1 = lines.length) :
    (numbersIn lines[i]).length = ms.length - 16 * i ∧
    1 ≤ (numbersIn lines[i]).length ∧ (numbersIn lines[i]).length ≤ 16

/-- Lines that hold the rows, with a comma at the end of each but the last. -/
theorem wrapped_of_rows {ms : List Nat} {lines : List (List Char)}
    (hrows : lines.map numbersIn = rows ms)
    (hcommas : ∀ i (h : i + 1 < lines.length), lines[i].getLast? = some ',') :
    Wrapped ms lines := by
  have hlength : lines.length = (ms.length + 15) / 16 := by
    rw [← length_rows, ← hrows, List.length_map]
  have hnumbers : ∀ i (h : i < lines.length),
      numbersIn lines[i] = (ms.drop (16 * i)).take 16 := fun i h => by
    have hi : i < (rows ms).length := by rwa [← hrows, List.length_map]
    rw [← getElem_rows ms hi, List.getElem_of_eq hrows.symm, List.getElem_map]
  have hcount : ∀ i (h : i < lines.length),
      (numbersIn lines[i]).length = min 16 (ms.length - 16 * i) := fun i h => by
    rw [hnumbers i h, List.length_take, List.length_drop]
  refine ⟨hlength, hnumbers, fun i h => ⟨?_, hcommas i h⟩, fun i h => ?_⟩
  · rw [hcount i (by omega)]
    omega
  · rw [hcount i (by omega)]
    omega

/-! ## The whole text -/

/-- The text of a set is that of its rows in braces, with a comma and a line feed between two
rows. -/
theorem toList_renderMembers (m : Nat) (ms : List Nat) :
    (MemberSet.renderMembers (m :: ms)).toList =
      '\x7b' :: ([',', '\n'].intercalate ((rows (m :: ms)).map fun row => (rowText row).toList) ++
        ['\x7d']) := by
  rw [MemberSet.renderMembers_cons, String.toList_append, String.toList_append,
    String.toList_intercalate, List.map_map]
  rfl

/-- **The lines of the text** are those of the rows, the first with a brace in front. -/
theorem splitOn_renderMembers (m : Nat) (ms : List Nat) :
    ∃ row more, rows (m :: ms) = row :: more ∧
      (MemberSet.renderMembers (m :: ms)).toList.splitOn '\n' =
        closeRows (('\x7b' :: (rowText row).toList) ::
          more.map fun row => (rowText row).toList) := by
  refine ⟨_, _, by rw [rows], ?_⟩
  rw [toList_renderMembers, rows, List.map_cons, ← List.cons_append,
    ← List.intercalate_cons_cons_left]
  refine splitOn_intercalate_rows fun text htext => ?_
  rcases List.mem_cons.1 htext with rfl | hmore
  · exact fun hmem => oneLine_rowText _ (List.mem_of_ne_of_mem (by decide) hmem)
  · obtain ⟨row, -, rfl⟩ := List.mem_map.1 hmore
    exact oneLine_rowText row

/-- The lines of the text are wrapped as the rows are: sixteen members on each but the last. -/
theorem wrapped_renderMembers (m : Nat) (ms : List Nat) :
    Wrapped (m :: ms) ((MemberSet.renderMembers (m :: ms)).toList.splitOn '\n') := by
  obtain ⟨row, more, hrows, hlines⟩ := splitOn_renderMembers m ms
  rw [hlines]
  refine wrapped_of_rows ?_ fun i h => getLast?_closeRows h
  have hfirst : numbersIn ('\x7b' :: (rowText row).toList) = row := by
    rw [numbersIn, digitRuns_cons (by decide), ← numbersIn, numbersIn_rowText]
  have hmore : (more.map fun row => (rowText row).toList).map numbersIn = more := by
    rw [List.map_map]
    exact (List.map_congr_left fun row _ => numbersIn_rowText row).trans (List.map_id more)
  rw [map_numbersIn_closeRows, List.map_cons, hfirst, hmore, hrows]

/-- The runs of digits in the text are the members. -/
theorem digitRuns_renderMembers (m : Nat) (ms : List Nat) :
    digitRuns (MemberSet.renderMembers (m :: ms)).toList = (m :: ms).map (Nat.toDigits 10) := by
  rw [toList_renderMembers, digitRuns_cons (by decide), digitRuns_concat (by decide),
    digitRuns_intercalate (by decide) (by decide), List.flatMap_map]
  calc (rows (m :: ms)).flatMap (fun row => digitRuns (rowText row).toList)
      = (rows (m :: ms)).flatMap fun row => row.map (Nat.toDigits 10) := by
        simp only [digitRuns_rowText]
    _ = (rows (m :: ms)).flatten.map (Nat.toDigits 10) := by
        rw [List.map_flatten, List.flatMap_def]
    _ = (m :: ms).map (Nat.toDigits 10) := by rw [flatten_rows]

/-! ## On one line -/

/-- A space stands for a line feed. -/
def spaceForFeed (c : Char) : Char := if c = '\n' then ' ' else c

/-- A text on one line has no line feeds to replace. -/
theorem map_spaceForFeed {text : String} (h : OneLine text) :
    text.toList.map spaceForFeed = text.toList := by
  refine (List.map_congr_left fun c hc => if_neg ?_).trans (List.map_id _)
  rintro rfl
  exact h hc

/-- Both separators are the same once a space stands for the line feed. -/
theorem map_separator (count : Nat) :
    (MemberSet.separator count).toList.map spaceForFeed = ", ".toList := by
  unfold MemberSet.separator
  split <;> decide

/-- With spaces for the line feeds, all members are written as in one row. -/
theorem map_renderAfter (m : Nat) (ms : List Nat) (count : Nat) :
    (toString m ++ MemberSet.renderAfter count ms).toList.map spaceForFeed =
      (rowText (m :: ms)).toList := by
  have hm := map_spaceForFeed (oneLine_toString m)
  induction ms generalizing m count with
  | nil => simpa [rowText] using hm
  | cons k ms ih =>
    have hrest := ih k (count + 1) (map_spaceForFeed (oneLine_toString k))
    rw [String.toList_append, List.map_append] at hrest
    rw [MemberSet.renderAfter, rowText_cons_cons]
    simp only [String.toList_append, List.map_append, hm, map_separator, List.append_assoc]
    rw [← hrest]

/-- **With spaces for the line feeds, the text is the inline one.** -/
theorem map_renderMembers (m : Nat) (ms : List Nat) :
    (MemberSet.renderMembers (m :: ms)).map spaceForFeed =
      "\x7b" ++ String.intercalate ", " ((m :: ms).map toString) ++ "\x7d" := by
  have hopen : "\x7b".toList.map spaceForFeed = "\x7b".toList := by decide
  have hclose : "\x7d".toList.map spaceForFeed = "\x7d".toList := by decide
  have hmembers := map_renderAfter m ms 1
  rw [String.toList_append, List.map_append] at hmembers
  apply String.toList_injective
  rw [String.toList_map, MemberSet.renderMembers]
  simp only [String.toList_append, List.map_append, hopen, hclose]
  rw [List.append_assoc "\x7b".toList, hmembers, rowText]

namespace MemberSet

/-- **The numbers in the text of a set are its members.** -/
theorem numbersIn_render (s : MemberSet) : numbersIn s.render.toList = s.toList := by
  rw [render_eq]
  cases s.toList with
  | nil => decide +kernel
  | cons m ms =>
    rw [if_neg (List.cons_ne_nil m ms)]
    exact numbersIn_of_digitRuns (digitRuns_renderMembers m ms)

/-- **The text of a set tells which set it is.** -/
theorem render_injective : Function.Injective render := by
  intro s t h
  rw [← refill_toList s empty, ← refill_toList t empty, ← numbersIn_render, h, numbersIn_render]

/-- The empty set is the only one without members. -/
theorem toList_eq_nil_iff_eq_empty {s : MemberSet} : s.toList = [] ↔ s = empty := by
  rw [toList_eq_nil_iff, isEmpty_iff, ← toFinset_empty, toFinset_injective.eq_iff]

/-- The sentence for the empty set is the text of no other. -/
theorem render_eq_emptyText_iff {s : MemberSet} : s.render = emptyText ↔ s = empty := by
  have hempty : empty.render = emptyText := by decide +kernel
  rw [← hempty, render_injective.eq_iff]

/-- **The text of a set shows it faithfully.** If the set has members, the text begins and ends with
a brace, so that no line feed is at its end. It is wrapped: of the lines, as many as sixteens of
members have begun, each but the last holds sixteen members and ends with a comma, and the last
holds the members that are left. The runs of digits in the text are the members, in ascending order
and without zeros in front, and with spaces for the line feeds it is the inline text. The sentence
for the empty set is the text of no other set, and sets of the same text are equal. -/
theorem render_shows_the_members (s : MemberSet) :
    (s ≠ empty →
      (∃ inner, s.render = "\x7b" ++ inner ++ "\x7d") ∧
      s.render.toList.getLast? ≠ some '\n' ∧
      s.toList.length = s.size ∧ Wrapped s.toList (s.render.toList.splitOn '\n') ∧
      numbersIn s.render.toList = s.toList ∧
      (∀ run ∈ digitRuns s.render.toList, run.head? = some '0' → run = ['0']) ∧
      s.render.map spaceForFeed = s.inlineText) ∧
    s.toList.Pairwise (· < ·) ∧ (∀ m, m ∈ s.toList ↔ s.contains m = true) ∧
    (s.render = emptyText ↔ s = empty) ∧
    ∀ t : MemberSet, s.render = t.render → s = t := by
  refine ⟨fun hs => ?_, s.pairwise_toList, fun _ => mem_toList, render_eq_emptyText_iff,
    fun _ h => render_injective h⟩
  have hnumbers := s.numbersIn_render
  have hsize := s.size_eq_length.symm
  have hrender := s.render_eq
  rw [if_neg (toList_eq_nil_iff_eq_empty.not.2 hs)] at hrender
  rw [hrender] at hnumbers ⊢
  rw [inlineText]
  obtain ⟨m, ms, hlist⟩ := List.exists_cons_of_ne_nil (toList_eq_nil_iff_eq_empty.not.2 hs)
  rw [hlist] at hnumbers hsize ⊢
  refine ⟨⟨toString m ++ renderAfter 1 ms, ?_⟩, ?_, hsize, wrapped_renderMembers m ms, hnumbers,
    fun run hrun hzero => ?_, map_renderMembers m ms⟩
  · simp only [renderMembers, String.append_assoc]
  · rw [toList_renderMembers, ← List.cons_append, List.getLast?_concat]
    decide
  · rw [digitRuns_renderMembers] at hrun
    obtain ⟨n, -, rfl⟩ := List.mem_map.1 hrun
    exact eq_singleton_of_head?_toDigits hzero

/-- A set that takes two lines, filled in two orders. -/
theorem render_shows_the_members_on_two_lines :
    let s := ofList (List.range 18)
    let t := ofList (List.range 18).reverse
    let lines := s.render.toList.splitOn '\n'
    s ≠ empty ∧ Wrapped (List.range 18) lines ∧ lines.length = 2 ∧
    numbersIn s.render.toList = List.range 18 ∧
    ['0'] ∈ digitRuns s.render.toList ∧
    (∀ run ∈ digitRuns s.render.toList, run.head? = some '0' → run = ['0']) ∧
    s.render.map spaceForFeed =
      "\x7b0, 1, 2, 3, 4, 5, 6, 7, 8, 9, 10, 11, 12, 13, 14, 15, 16, 17\x7d" ∧
    s.render = t.render ∧ s = t := by
  intro s t lines
  have hne : s ≠ empty := by decide +kernel
  have hlist : s.toList = List.range 18 := by decide +kernel
  have hsame : s.render = t.render := by decide +kernel
  obtain ⟨hshows, -, -, -, hinjective⟩ := render_shows_the_members s
  obtain ⟨-, -, -, hwrapped, hnumbers, hzeros, hinline⟩ := hshows hne
  rw [hlist] at hwrapped hnumbers
  exact ⟨hne, hwrapped, hwrapped.length_eq, hnumbers, by decide +kernel, hzeros,
    hinline.trans (by decide +kernel), hsame, hinjective t hsame⟩

end MemberSet

end SetCalculator
