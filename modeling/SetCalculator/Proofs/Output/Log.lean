import SetCalculator.Proofs.Output.Printed
import SetCalculator.Proofs.Text.OneLine

/-!
# The log among the diagnostics

The log goes where the diagnostics go. Deleted from them, the lines of the log leave what was
printed (`written_deletes`): every record that is shown takes one write, and a filter has no say in
the others.

Whoever has only the text must tell the lines of the log by their looks: they begin with a level and
a component (`isLogLine`). That works if the events are `Legible`: no record is broken into several
lines, and nothing that is printed looks like a line of the log. Then the lines of the log are the
records that are shown, and the other lines are what was printed (`filter_isLogLine_of_legible`).
-/

namespace SetCalculator

open Text Log

/-! ## Records that are shown -/

/-- The record that an event logs. -/
def Event.record? : Event → Option Record
  | logged record => some record
  | printed _ _ => none

/-- The records that a filter shows, in the order of the events. -/
def shownRecords (f : Filter) (events : List Event) : List Record :=
  (events.filterMap Event.record?).filter f.shows

@[simp] theorem shownRecords_printed_cons (f : Filter) (stream : Stream) (text : String)
    (events : List Event) :
    shownRecords f (.printed stream text :: events) = shownRecords f events := rfl

@[simp] theorem shownRecords_logged_cons (f : Filter) (r : Record) (events : List Event) :
    shownRecords f (.logged r :: events) =
      if f.shows r then r :: shownRecords f events else shownRecords f events := by
  cases hshows : f.shows r with
  | true => simp [shownRecords, Event.record?, hshows]
  | false => simp [shownRecords, Event.record?, hshows]

/-- `Deletes records text rest`: without the lines of these records, in this order, `rest` is left
of the text. -/
inductive Deletes : List Record → String → String → Prop
  | nil : Deletes [] "" ""
  | record {records : List Record} {text rest : String} (r : Record) : Deletes records text rest →
    Deletes (r :: records) (r.render ++ "\n" ++ text) rest
  | printed {records : List Record} {text rest : String} (line : String) :
    Deletes records text rest → Deletes records (line ++ "\n" ++ text) (line ++ "\n" ++ rest)

/-- A stream holds what is written of each event, in the order of the events. -/
theorem written_cons (f : Filter) (stream : Stream) (event : Event) (events : List Event) :
    written f stream (event :: events) = event.writtenTo f stream ++ written f stream events :=
  String.join_cons

/-- The log does not go to the output. -/
theorem written_output (f : Filter) (events : List Event) :
    written f .output events = textOn .output (printed events) := by
  induction events with
  | nil => rfl
  | cons event events ih =>
    rw [written_cons, ih]
    cases event with
    | printed target text => rfl
    | logged record => exact String.empty_append

/-- **Without the records that are shown, the diagnostics are what was printed to them.** -/
theorem written_deletes (f : Filter) (events : List Event) :
    Deletes (shownRecords f events) (written f .diagnostics events)
      (textOn .diagnostics (printed events)) := by
  induction events with
  | nil => exact .nil
  | cons event events ih =>
    rw [written_cons]
    cases event with
    | printed target text =>
      cases target with
      | output => simpa [Event.writtenTo] using ih
      | diagnostics => exact .printed text ih
    | logged r =>
      cases hshows : f.shows r with
      | true => simpa [Event.writtenTo, hshows] using ih.record r
      | false => simpa [Event.writtenTo, hshows] using ih

/-! ## Lines that look like the log -/

/-- Every level, in the order of detail. -/
def levels : List Level := [.error, .warn, .info, .debug, .trace]

/-- Whether a line begins like a record of some level and component. -/
def isLogLine (line : String) : Bool :=
  levels.any fun level => (Component.editor :: Component.all).any fun c =>
    (level.label ++ " " ++ c.name ++ ": ").toList.isPrefixOf line.toList

/-- Every record begins like one. -/
theorem isLogLine_render (r : Record) : isLogLine r.render = true := by
  have hlevel : r.level ∈ levels := by cases r.level <;> decide
  have hcomponent : r.component ∈ Component.editor :: Component.all := by
    cases r.component <;> decide
  refine List.any_eq_true.2 ⟨r.level, hlevel, List.any_eq_true.2 ⟨r.component, hcomponent, ?_⟩⟩
  have hbegin : ∀ a b c : String, a.toList <+: (a ++ b ++ c).toList := by
    intro a b c
    rw [String.append_assoc, String.toList_append]
    exact List.prefix_append _ _
  rw [List.isPrefixOf_iff_prefix]
  exact hbegin _ _ _

/-- The first two characters already tell most lines from the log. -/
theorem isLogLine_eq_false {line : String}
    (h : line.toList.take 2 ∉ levels.map fun level => level.label.toList.take 2) :
    isLogLine line = false := by
  rw [← Bool.not_eq_true]
  intro hlog
  obtain ⟨level, hlevel, hcomponent⟩ := List.any_eq_true.1 hlog
  obtain ⟨c, -, hprefix⟩ := List.any_eq_true.1 hcomponent
  obtain ⟨rest, hrest⟩ := List.isPrefixOf_iff_prefix.1 hprefix
  refine h (List.mem_map.2 ⟨level, hlevel, ?_⟩)
  rw [← hrest]
  have htwo : 2 ≤ level.label.toList.length := by cases level <;> decide
  simp [String.toList_append, List.take_append, Nat.sub_eq_zero_of_le htwo]

/-- A line that begins with two characters of no level does not look like a record, however it goes
on. -/
theorem isLogLine_append_eq_false {start : String}
    (h : 2 ≤ start.toList.length ∧
      start.toList.take 2 ∉ levels.map fun level => level.label.toList.take 2) (rest : String) :
    isLogLine (start ++ rest) = false := by
  refine isLogLine_eq_false ?_
  rw [String.toList_append, List.take_append_of_le_length h.1]
  exact h.2

/-- No line of the text looks like a record. -/
def NoLogLine (text : String) : Prop :=
  ∀ line ∈ text.toList.splitOn '\n', isLogLine (String.ofList line) = false

/-- For a text on one line, only this line has to be looked at. -/
theorem noLogLine_of_oneLine {text : String} (h : OneLine text) (hlog : isLogLine text = false) :
    NoLogLine text := by
  rw [NoLogLine, List.splitOn_eq_singleton h]
  exact List.forall_mem_singleton.2 (by rwa [String.ofList_toList])

/-- Texts with a line feed between them are looked at separately. -/
theorem noLogLine_append_lineFeed {text rest : String} :
    NoLogLine (text ++ "\n" ++ rest) ↔ NoLogLine text ∧ NoLogLine rest := by
  have hlist : (text ++ "\n" ++ rest).toList = text.toList ++ '\n' :: rest.toList := by
    simp [String.toList_append]
  rw [NoLogLine, hlist, List.splitOn_append_cons_self, List.forall_mem_append]
  rfl

/-! ## Legible events -/

/-- A record is on one line, and no line of a diagnostic looks like a record. -/
def Event.Legible : Event → Prop
  | printed .output _ => True
  | printed .diagnostics text => NoLogLine text
  | logged record => OneLine record.render

/-- **Legible events are told apart by the text that they write.** -/
theorem filter_isLogLine_of_legible (f : Filter) {events : List Event}
    (h : ∀ event ∈ events, event.Legible) :
    let lines := endedLines (written f .diagnostics events)
    lines.filter isLogLine = (shownRecords f events).map Record.render ∧
    (lines.filter fun line => !isLogLine line) =
      endedLines (textOn .diagnostics (printed events)) := by
  induction events with
  | nil => exact ⟨rfl, rfl⟩
  | cons event events ih =>
    obtain ⟨hevent, hevents⟩ := List.forall_mem_cons.1 h
    obtain ⟨hlog, hother⟩ := ih hevents
    cases event with
    | printed target text =>
      cases target with
      | output => simpa [written_cons, Event.writtenTo] using ⟨hlog, hother⟩
      | diagnostics =>
        -- A diagnostic can have several lines; none of them passes for a record.
        have hlines : ∀ line ∈ (text.toList.splitOn '\n').map String.ofList,
            isLogLine line = false :=
          List.forall_mem_map.2 hevent
        have hnone : ((text.toList.splitOn '\n').map String.ofList).filter isLogLine = [] :=
          List.filter_eq_nil_iff.2 fun line hline => by simp [hlines line hline]
        have hall : ((text.toList.splitOn '\n').map String.ofList).filter (!isLogLine ·) =
            (text.toList.splitOn '\n').map String.ofList :=
          List.filter_eq_self.2 fun line hline => by simp [hlines line hline]
        simp only [written_cons, Event.writtenTo, printed_printed_cons, textOn_cons, if_true,
          endedLines_append, List.filter_append, hnone, hall, hlog, hother]
        exact ⟨rfl, trivial⟩
    | logged r =>
      cases hshows : f.shows r with
      | true =>
        have hline : OneLine r.render := hevent
        simp only [written_cons, Event.writtenTo, hshows, and_self, if_true,
          endedLines_oneLine_append hline, shownRecords_logged_cons, List.map_cons,
          List.filter_cons, isLogLine_render, hlog, hother, Bool.not_true]
        exact ⟨trivial, rfl⟩
      | false => simpa [written_cons, Event.writtenTo, hshows] using ⟨hlog, hother⟩

end SetCalculator
