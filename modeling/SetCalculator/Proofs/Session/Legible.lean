import SetCalculator.Session
import SetCalculator.Proofs.Line.Trace
import SetCalculator.Proofs.Output.Log

/-!
# Sessions that are legible

What a session logs and reports is legible, whatever the lines are that it is fed
(`legible_feed`). Its records quote the lines and their tokens; the other fields are keywords, names
and numbers, and the reports have fixed texts.
-/

namespace SetCalculator

open Text Log

/-! ## Records and reports -/

/-- A record is on one line if its message and its fields are. -/
theorem oneLine_render (level : Level) (component : Component) {message : String}
    {fields : List (String × String)} (hmessage : OneLine message)
    (hfields : ∀ field ∈ fields, OneLine field.1 ∧ OneLine field.2) :
    OneLine (Record.render ⟨level, component, message, fields⟩) := by
  have hlabel : OneLine level.label := by cases level <;> decide
  have hname : OneLine component.name := by cases component <;> decide
  have hjoin : OneLine (String.join (fields.map fun f => " " ++ f.1 ++ "=" ++ f.2)) := by
    refine oneLine_join (List.forall_mem_map.2 fun field hfield => ?_)
    obtain ⟨hkey, hvalue⟩ := hfields field hfield
    simp only [oneLine_append, hkey, hvalue, and_true]
    decide
  simp only [Record.render, oneLine_append, hlabel, hname, oneLine_disarm hmessage, hjoin, true_and,
    and_true]
  decide

/-- A record with a single field is on one line if its message and this field are. -/
theorem oneLine_render_singleton (level : Level) (component : Component)
    {message key value : String} (hmessage : OneLine message) (hkey : OneLine key)
    (hvalue : OneLine value) :
    OneLine (Record.render ⟨level, component, message, [(key, value)]⟩) :=
  oneLine_render level component hmessage (List.forall_mem_singleton.2 ⟨hkey, hvalue⟩)

/-- A record with two fields is on one line if its message and both fields are. -/
theorem oneLine_render_pair (level : Level) (component : Component)
    {message key value key' value' : String} (hmessage : OneLine message)
    (hfirst : OneLine key ∧ OneLine value) (hsecond : OneLine key' ∧ OneLine value') :
    OneLine (Record.render ⟨level, component, message, [(key, value), (key', value')]⟩) :=
  oneLine_render level component hmessage
    (List.forall_mem_cons.2 ⟨hfirst, List.forall_mem_singleton.2 hsecond⟩)

/-- The keywords are on one line. -/
theorem Keyword.oneLine_text (keyword : Keyword) : OneLine keyword.text := by
  have hall : ∀ keyword ∈ Keyword.all, OneLine keyword.text := by decide
  exact hall keyword keyword.mem_all

/-- The short name of a rejection is on one line, with the keyword that it may hold. -/
theorem Rejection.oneLine_label (rejection : Rejection) : OneLine rejection.label := by
  rcases rejection with _ | _ | _ | _ | _ | _ | (_ | _ | (_ | _ | _ | _) | _) | _ | _ | _ | _
  all_goals decide +kernel

/-- The message of a rejection is on one line. -/
theorem Rejection.oneLine_message (rejection : Rejection) : OneLine rejection.message := by
  cases rejection with
  | wrongOperandCount keyword =>
    cases keyword
    all_goals
      simp only [message, Keyword.arityMessage]
      decide +kernel
  | _ => decide +kernel

/-- The record of a token quotes its text, so it is on one line whatever the token holds. -/
theorem Token.oneLine_record (t : Token) : OneLine t.record.render :=
  oneLine_render_pair _ _ (by decide) ⟨by decide, oneLine_quote _⟩ ⟨by decide, oneLine_toString _⟩

/-- The record of a verdict quotes the line, so it is on one line whatever the line holds. -/
theorem oneLine_verdictRecord (line : List Char) (verdict : Except Rejection Verdict) :
    OneLine (verdictRecord line verdict).render := by
  rcases verdict with rejection | (_ | keyword)
  · exact oneLine_render_pair _ _ (by decide) ⟨by decide, oneLine_quote _⟩
      ⟨by decide, rejection.oneLine_label⟩
  · exact oneLine_render _ _ (by decide) (List.forall_mem_nil _)
  · exact oneLine_render_singleton _ _ (by decide) (by decide) keyword.oneLine_text

/-- The log of a line is legible, whatever is in the line. -/
theorem legible_readingRecords (line : List Char) :
    ∀ event ∈ (readingRecords line).map Event.logged, event.Legible := by
  refine List.forall_mem_map.2 fun r hr => ?_
  rcases mem_readingRecords hr with ⟨t, rfl⟩ | ⟨verdict, rfl⟩
  · exact t.oneLine_record
  · exact oneLine_verdictRecord line verdict

/-- A report that something is wrong does not look like the log. -/
theorem noLogLine_error {text : String} (h : OneLine text) : NoLogLine ("Error: " ++ text) :=
  noLogLine_of_oneLine (oneLine_append.2 ⟨by decide, h⟩)
    (isLogLine_append_eq_false (by decide) text)

/-! ## Sessions -/

namespace Session

/-- The output need not be told from the log, which is not written there. -/
theorem legible_emit_output (s : Session) (text : String) :
    ∀ event ∈ (s.emit .output text).events, event.Legible := by
  unfold emit
  split
  · exact List.forall_mem_nil _
  · exact List.forall_mem_singleton.2 trivial

/-- A report is on one line, and begins like no record. -/
theorem legible_report (s : Session) (refusal : Refusal) :
    ∀ event ∈ (s.report refusal).events, event.Legible := by
  have hmessage : OneLine refusal.message := by
    cases refusal with
    | rejected rejection => exact rejection.oneLine_message
    | terminated => decide
  rw [report, emit]
  split
  · exact List.forall_mem_nil _
  · exact List.forall_mem_singleton.2 (noLogLine_error hmessage)

/-- What a command shows goes to the output, and what it logs are names and numbers. -/
theorem legible_perform (s : Session) (command : Command) :
    ∀ event ∈ (s.perform command).events, event.Legible := by
  cases command with
  | read target members =>
    have hname : OneLine target.name := by cases target <;> decide
    exact List.forall_mem_singleton.2 (oneLine_render_pair _ _ (by decide) ⟨by decide, hname⟩
      ⟨by decide, oneLine_toString _⟩)
  | print register => exact s.legible_emit_output _
  | combine op lhs rhs dest => exact List.forall_mem_nil _
  | stop =>
    exact List.forall_mem_singleton.2 (oneLine_render _ _ (by decide) (List.forall_mem_nil _))

/-- The record of a command names its keyword alone. -/
theorem legible_execute (s : Session) (command : Command) :
    ∀ event ∈ (s.execute command).events, event.Legible := by
  unfold execute
  split
  · exact List.forall_mem_nil _
  · have hrecord := oneLine_render_singleton .debug .session (by decide : OneLine "execute")
      (by decide : OneLine "operation") command.keyword.oneLine_text
    exact List.forall_mem_cons.2 ⟨hrecord, s.legible_perform command⟩

/-- Executing a line logs its tokens and its verdict before. -/
theorem legible_executeLine (s : Session) (line : String) :
    ∀ event ∈ (s.executeLine line).events, event.Legible := by
  have hrecords := legible_readingRecords line.toList
  unfold executeLine
  split
  · exact hrecords
  · exact hrecords
  · exact List.forall_mem_append.2 ⟨hrecords, s.legible_execute _⟩

/-- **What a line makes a session do is legible**, also if it is rejected. -/
theorem legible_feed (s : Session) (line : String) :
    ∀ event ∈ (s.feed line).events, event.Legible := by
  have hdone := s.legible_executeLine line
  cases hanswer : (s.executeLine line).answer with
  | ok flow =>
    rw [feed_of_ok hanswer]
    exact hdone
  | error refusal =>
    rw [feed_of_error hanswer]
    exact List.forall_mem_append.2 ⟨hdone, legible_report _ _⟩

end Session

end SetCalculator
