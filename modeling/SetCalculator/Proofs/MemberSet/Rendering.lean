import SetCalculator.MemberSet.Rendering
import SetCalculator.Proofs.MemberSet.Finite

/-!
# The text of a set, from its finite set

`setText` says how a finite set of numbers is shown: its members in ascending order, cut into rows
of sixteen, with a comma and a space inside a row and a comma and a line feed between two rows.
`render_eq_setText` says that a member set is shown as its finite set. The rendering carries the
number of members that it has shown; only its remainder by sixteen matters (`renderAfter_add_row`),
and while it stays inside a row no row ends (`renderAfter_row`).
-/

namespace SetCalculator

/-- The members, cut into rows of sixteen; only the last row may be shorter. -/
def rows : List Nat → List (List Nat)
  | [] => []
  | m :: ms => (m :: ms.take 15) :: rows (ms.drop 15)
termination_by ms => ms.length
decreasing_by simp only [List.length_drop, List.length_cons]; omega

/-- The members of one row. -/
def rowText (row : List Nat) : String := String.intercalate ", " (row.map toString)

/-- How a finite set of numbers is shown. -/
def setText (s : Finset Nat) : String :=
  if s = ∅ then "The set is empty."
  else
    "\x7b" ++ String.intercalate ",\n" ((rows (s.sort (· ≤ ·))).map rowText) ++ "\x7d"

namespace MemberSet

/-! ## The empty set and the others -/

/-- Only a set without members is shown by the sentence for it. -/
theorem render_eq (s : MemberSet) :
    s.render = if s.toList = [] then emptyText else renderMembers s.toList := by
  simp only [render, toList_eq_nil_iff]

/-- A set in braces is not the sentence for the empty one. -/
theorem renderMembers_ne_emptyText (ms : List Nat) : renderMembers ms ≠ emptyText := by
  intro h
  have hhead := congrArg (fun text : String => text.toList.head?) h
  cases ms with
  | nil => exact absurd hhead (by decide +kernel)
  | cons m ms => simp [renderMembers, emptyText, String.toList_append] at hhead

/-! ## Inside a row and from row to row -/

/-- Members are written one after the other, and only their number counts for those that follow. -/
theorem renderAfter_append (xs ys : List Nat) (count : Nat) :
    renderAfter count (xs ++ ys) = renderAfter count xs ++ renderAfter (count + xs.length) ys := by
  induction xs generalizing count with
  | nil => simp
  | cons x xs ih =>
    have hcount : count + 1 + xs.length = count + (x :: xs).length := by
      rw [List.length_cons]
      omega
    rw [List.cons_append, renderAfter, renderAfter, ih, hcount]
    simp only [String.append_assoc]

/-- A full row more or less before a member makes no difference. -/
theorem renderAfter_add_row (count : Nat) (ms : List Nat) :
    renderAfter (count + 16) ms = renderAfter count ms := by
  induction ms generalizing count with
  | nil => rfl
  | cons m ms ih =>
    have hseparator : separator (count + 16) = separator count := by
      have : (count + 16) % membersPerLine = count % membersPerLine := Nat.add_mod_right count 16
      rw [separator, separator, this]
    have hnext : count + 16 + 1 = count + 1 + 16 := by omega
    rw [renderAfter, renderAfter, hseparator, hnext, ih]

/-- No row ends before its sixteenth member. -/
theorem renderAfter_row (m : Nat) (ms : List Nat) {count : Nat} (hpos : 0 < count)
    (hrow : count + ms.length ≤ 16) : toString m ++ renderAfter count ms = rowText (m :: ms) := by
  induction ms generalizing m count with
  | nil => simp [rowText]
  | cons k ms ih =>
    rw [List.length_cons] at hrow
    -- The count stays below sixteen, so no separator here ends a line.
    have hseparator : separator count = ", " := by
      have : count % 16 ≠ 0 := by omega
      simp [separator, membersPerLine, this]
    have hrest : toString k ++ renderAfter (count + 1) ms = rowText (k :: ms) :=
      ih k (by omega) (by omega)
    calc toString m ++ renderAfter count (k :: ms)
        = toString m ++ ", " ++ (toString k ++ renderAfter (count + 1) ms) := by
          rw [renderAfter, hseparator]
          simp only [String.append_assoc]
      _ = toString m ++ ", " ++ rowText (k :: ms) := by rw [hrest]
      _ = rowText (m :: k :: ms) := by
          simp only [rowText, List.map_cons, String.intercalate_cons_cons]

/-- The text after the first member completes the first row, and the other rows follow. -/
theorem renderAfter_one (m : Nat) (ms : List Nat) :
    toString m ++ renderAfter 1 ms = String.intercalate ",\n" ((rows (m :: ms)).map rowText) := by
  induction hn : ms.length using Nat.strong_induction_on generalizing m ms with
  | _ n ih =>
    have hfirst : toString m ++ renderAfter 1 (ms.take 15) = rowText (m :: ms.take 15) :=
      renderAfter_row m _ (by omega) (by rw [List.length_take]; omega)
    have hsplit : renderAfter 1 ms =
        renderAfter 1 (ms.take 15) ++ renderAfter (1 + (ms.take 15).length) (ms.drop 15) := by
      rw [← renderAfter_append, List.take_append_drop]
    rw [hsplit, ← String.append_assoc, hfirst, rows]
    cases hrest : ms.drop 15 with
    | nil => simp [rows]
    | cons k rest =>
      have hlen : (k :: rest).length = ms.length - 15 := by rw [← hrest, List.length_drop]
      rw [List.length_cons] at hlen
      have hfull : 1 + (ms.take 15).length = 0 + 16 := by
        rw [List.length_take]
        omega
      have hnext : toString k ++ renderAfter 1 rest =
          String.intercalate ",\n" ((rows (k :: rest)).map rowText) :=
        ih rest.length (by omega) k rest rfl
      have hrows : rows (k :: rest) ≠ [] := by simp [rows]
      rw [hfull, renderAfter_add_row, renderAfter, List.map_cons,
        String.intercalate_cons_of_ne_nil (by simpa using hrows), ← hnext]
      simp only [String.append_assoc, separator, Nat.zero_mod, if_true]

/-- **The text of a set** is that of its rows, in braces and with a comma and a line feed between
two rows. -/
theorem renderMembers_cons (m : Nat) (ms : List Nat) :
    renderMembers (m :: ms) =
      "\x7b" ++ String.intercalate ",\n" ((rows (m :: ms)).map rowText) ++ "\x7d" := by
  rw [renderMembers, ← renderAfter_one]
  simp only [String.append_assoc]

/-- **A member set is shown as its finite set.** -/
theorem render_eq_setText (s : MemberSet) : s.render = setText s.toFinset := by
  have hnil : s.toFinset = ∅ ↔ s.toList = [] := by rw [toList_eq_nil_iff, isEmpty_iff]
  simp only [render_eq, setText, hnil, sort_toFinset]
  cases s.toList with
  | nil => rfl
  | cons m ms =>
    rw [if_neg (List.cons_ne_nil m ms), if_neg (List.cons_ne_nil m ms), renderMembers_cons]

end MemberSet

end SetCalculator
