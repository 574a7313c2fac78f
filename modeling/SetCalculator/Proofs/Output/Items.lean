import SetCalculator.Proofs.Output.Printed
import SetCalculator.Session

/-!
# The items of a session

A session shows items of three kinds: the echo of a line, the set that a line asks for, and the
report of a line that was not executed. An item tells its kind by how it begins: an echo and a
report begin with a mark of their own (`IsEcho`, `IsReport`), and no set begins with either of the
two (`head?_render`). Reports are printed to the diagnostics and all else to the output, so the kind
of an item tells its stream as well (`Routed`), and what a stream holds is found by sorting the
items by their kind (`textOn_output_of_routed`, `textOn_diagnostics_of_routed`).
-/

namespace SetCalculator

/-- The item begins like the echo of a line. -/
def IsEcho (item : String) : Prop := "> ".toList <+: item.toList

/-- The item begins like the report of a line that was not executed. -/
def IsReport (item : String) : Prop := "Error: ".toList <+: item.toList

instance (item : String) : Decidable (IsEcho item) :=
  inferInstanceAs (Decidable ("> ".toList <+: item.toList))

instance (item : String) : Decidable (IsReport item) :=
  inferInstanceAs (Decidable ("Error: ".toList <+: item.toList))

/-- The items, each with the end of its line. -/
def linesText (items : List String) : String := String.join (items.map (· ++ "\n"))

@[simp] theorem linesText_nil : linesText [] = "" := rfl

@[simp] theorem linesText_cons (item : String) (items : List String) :
    linesText (item :: items) = item ++ "\n" ++ linesText items :=
  String.join_cons

/-! ## Which item is of which kind -/

/-- What is echoed begins like an echo. -/
theorem isEcho_echo (line : String) : IsEcho ("> " ++ line) := by
  rw [IsEcho, String.toList_append]
  exact List.prefix_append _ _

/-- What is reported begins like a report. -/
theorem isReport_report (message : String) : IsReport ("Error: " ++ message) := by
  rw [IsReport, String.toList_append]
  exact List.prefix_append _ _

/-- A text begins with another only if their first characters are the same. -/
theorem not_prefix_of_head?_ne {start text : List Char} (hne : start ≠ [])
    (h : text.head? ≠ start.head?) : ¬ start <+: text := by
  rintro ⟨rest, rfl⟩
  obtain ⟨c, start, rfl⟩ := List.exists_cons_of_ne_nil hne
  exact h rfl

/-- No report begins like an echo. -/
theorem not_isEcho_report (message : String) : ¬ IsEcho ("Error: " ++ message) := by
  rw [IsEcho, String.toList_append]
  exact not_prefix_of_head?_ne (by decide) (by simp)

/-- No echo begins like a report. -/
theorem not_isReport_echo (line : String) : ¬ IsReport ("> " ++ line) := by
  rw [IsReport, String.toList_append]
  exact not_prefix_of_head?_ne (by decide) (by simp)

/-- A set is shown in braces or by a sentence. -/
theorem head?_render (s : MemberSet) :
    s.render.toList.head? = some '\x7b' ∨ s.render.toList.head? = some 'T' := by
  rw [MemberSet.render]
  split
  · exact .inr rfl
  · cases s.toList with
    | nil => exact .inl rfl
    | cons m ms =>
      left
      simp [MemberSet.renderMembers]

/-- A set that is shown begins with no text of another first character. -/
theorem not_prefix_render {start : List Char} (hne : start ≠ [])
    (hbrace : some '\x7b' ≠ start.head?) (hsentence : some 'T' ≠ start.head?) (s : MemberSet) :
    ¬ start <+: s.render.toList := by
  apply not_prefix_of_head?_ne hne
  rcases head?_render s with h | h
  · rwa [h]
  · rwa [h]

/-- No set that is shown begins like an echo. -/
theorem not_isEcho_render (s : MemberSet) : ¬ IsEcho s.render :=
  not_prefix_render (by decide) (by decide) (by decide) s

/-- No set that is shown begins like a report. -/
theorem not_isReport_render (s : MemberSet) : ¬ IsReport s.render :=
  not_prefix_render (by decide) (by decide) (by decide) s

/-! ## Which item goes to which stream -/

/-- An item is printed to the diagnostics exactly if it is a report. -/
def Routed (shown : Stream × String) : Prop := shown.1 = .diagnostics ↔ IsReport shown.2

/-- An item that is no report belongs to the output. -/
theorem routed_output {text : String} (h : ¬ IsReport text) : Routed (.output, text) :=
  iff_of_false nofun h

/-- A report belongs to the diagnostics. -/
theorem routed_report (message : String) : Routed (.diagnostics, "Error: " ++ message) :=
  iff_of_true rfl (isReport_report message)

/-- The output gets the items that are no reports. -/
theorem Routed.eq_output_iff {shown : Stream × String} (h : Routed shown) :
    shown.1 = .output ↔ ¬ IsReport shown.2 := by
  rw [Routed] at h
  rw [← h]
  cases shown.1 with
  | output => exact iff_of_true rfl nofun
  | diagnostics => exact iff_of_false nofun fun hnot => hnot rfl

/-- A stream holds what was printed to it. -/
theorem textOn_eq_linesText (stream : Stream) (lines : List (Stream × String)) :
    textOn stream lines = linesText ((lines.filter fun line => line.1 = stream).map Prod.snd) := by
  induction lines with
  | nil => rfl
  | cons line lines ih =>
    rw [textOn_cons, ih]
    by_cases h : line.1 = stream
    · rw [if_pos h, List.filter_cons_of_pos (by simpa using h), List.map_cons, linesText_cons]
    · rw [if_neg h, List.filter_cons_of_neg (by simpa using h), String.empty_append]

section

variable {lines : List (Stream × String)} (h : ∀ line ∈ lines, Routed line)
include h

/-- **The output holds the items that are no reports.** -/
theorem textOn_output_of_routed :
    textOn .output lines = linesText ((lines.map Prod.snd).filter fun item => ¬ IsReport item) := by
  have hkind : ∀ line ∈ lines, decide (line.1 = .output) = decide (¬ IsReport line.2) :=
    fun line hline => decide_eq_decide.2 (h line hline).eq_output_iff
  rw [textOn_eq_linesText, List.filter_map, List.filter_congr hkind]
  rfl

/-- **The diagnostics hold the reports.** -/
theorem textOn_diagnostics_of_routed :
    textOn .diagnostics lines =
      linesText ((lines.map Prod.snd).filter fun item => IsReport item) := by
  have hkind : ∀ line ∈ lines, decide (line.1 = .diagnostics) = decide (IsReport line.2) :=
    fun line hline => decide_eq_decide.2 (h line hline)
  rw [textOn_eq_linesText, List.filter_map, List.filter_congr hkind]
  rfl

end

end SetCalculator
