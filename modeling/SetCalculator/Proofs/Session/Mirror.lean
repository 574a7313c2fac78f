import SetCalculator.Proofs.Output.Items
import SetCalculator.Proofs.Session.Change
import SetCalculator.Proofs.Session.Feed

/-!
# What is printed is what would be captured

A session that prints keeps nothing of what it shows, and one that captures prints nothing. Apart
from that the two are in the same state, whatever they are asked (`Session.Mirrors`): what the one
prints is what the other adds to its items, in the same order, and each line goes to the stream that
its kind calls for (`Step.Mirrors`). All of it comes down to `Mirrors.emit`, since nothing else
prints or captures; steps are put together by `Step.Mirrors.after`.

So what a session adds to its items can be read off what it would print (`transcript_feed`).
-/

namespace SetCalculator

namespace Session

/-- `s` prints and keeps nothing, `t` captures, and they agree otherwise. -/
structure Mirrors (s t : Session) : Prop where
  agrees : s.Agrees t
  prints : s.capturing = false
  keepsNothing : s.transcript = #[]
  captures : t.capturing = true

/-- A new session that prints mirrors a new one that captures. -/
theorem printing_mirrors_captured : printing.Mirrors captured := ⟨⟨rfl, rfl⟩, rfl, rfl, rfl⟩

end Session

/-- The step `a` of a session that prints, and the step `b` of one that captures and had the items
of `t` before it: the answers are the same, the sessions go on mirroring each other, and what `a`
prints is what `b` captures, each item on the right stream. -/
structure Step.Mirrors {α : Type} (t : Session) (a b : Step Session α) : Prop where
  answer : a.answer = b.answer
  state : a.state.Mirrors b.state
  items : b.state.transcript.toList = t.transcript.toList ++ (printed a.events).map Prod.snd
  routed : ∀ shown ∈ printed a.events, Routed shown

namespace Step.Mirrors

variable {α β : Type} {t : Session} {a b : Step Session α} {c d : Step Session β}

/-- Steps that answer alike and show nothing mirror one another if their states do. -/
theorem quiet (hanswer : a.answer = b.answer) (hstate : a.state.Mirrors b.state)
    (hprinted : printed a.events = []) (hkept : b.state.transcript = t.transcript) :
    Mirrors t a b := by
  refine ⟨hanswer, hstate, ?_, ?_⟩
  · rw [hprinted, hkept, List.map_nil, List.append_nil]
  · rw [hprinted]
    exact List.forall_mem_nil _

/-- Steps that lead to the same states and print the same may answer something else. -/
theorem congr (h : Mirrors t a b) (hanswer : c.answer = d.answer) (hc : c.state = a.state)
    (hd : d.state = b.state) (hprinted : printed c.events = printed a.events) :
    Mirrors t c d := by
  refine ⟨hanswer, ?_, ?_, ?_⟩
  · rw [hc, hd]
    exact h.state
  · rw [hd, hprinted]
    exact h.items
  · rw [hprinted]
    exact h.routed

/-- Two steps one after the other are mirrored if each of them is. -/
theorem after (h : Mirrors t a b) (h' : Mirrors b.state c d) (events : List Event) :
    Mirrors t (c.after a.events) (d.after events) := by
  refine ⟨h'.answer, h'.state, ?_, ?_⟩
  · show d.state.transcript.toList = _ ++ (printed (a.events ++ c.events)).map Prod.snd
    rw [h'.items, h.items, printed_append, List.map_append, List.append_assoc]
  · intro shown hshown
    rw [Step.after, printed_append] at hshown
    rcases List.mem_append.1 hshown with hshown | hshown
    · exact h.routed shown hshown
    · exact h'.routed shown hshown

end Step.Mirrors

namespace Session.Mirrors

variable {s t : Session} (h : s.Mirrors t)
include h

/-- **Showing an item**, which is all that prints or captures. -/
theorem emit {stream : Stream} {text : String} (hrouted : Routed (stream, text)) :
    Step.Mirrors t (s.emit stream text) (t.emit stream text) := by
  have hprinted : printed (s.emit stream text).events = [(stream, text)] := by
    rw [printed_emit, if_neg (by simp [h.prints])]
  refine ⟨rfl, ⟨h.agrees.emit stream text text, ?_, ?_, ?_⟩, ?_, ?_⟩
  · rw [capturing_emit, h.prints]
  · rw [state_emit_of_printing h.prints, h.keepsNothing]
  · rw [capturing_emit, h.captures]
  · rw [state_emit h.captures, hprinted]
    exact Array.toList_push
  · rw [hprinted]
    exact List.forall_mem_singleton.2 hrouted

/-- An echo is mirrored. -/
theorem echo (line : String) : Step.Mirrors t (s.echo line) (t.echo line) :=
  h.emit (routed_output (not_isReport_echo line))

/-- A report is mirrored. -/
theorem report (refusal : Refusal) : Step.Mirrors t (s.report refusal) (t.report refusal) :=
  h.emit (routed_report refusal.message)

/-- A command is mirrored: what one of the sessions prints the other captures. -/
theorem perform (command : Command) : Step.Mirrors t (s.perform command) (t.perform command) := by
  obtain ⟨hanswer, hagrees⟩ := h.agrees.perform command
  cases command with
  | read target members =>
    exact .quiet hanswer ⟨hagrees, h.prints, h.keepsNothing, h.captures⟩ rfl rfl
  | print register =>
    have hshown := h.emit (routed_output (not_isReport_render (s.registers.get register)))
    rw [Session.perform, Session.perform, ← h.agrees.registers]
    exact hshown.congr rfl rfl rfl rfl
  | combine op lhs rhs dest =>
    exact .quiet hanswer ⟨hagrees, h.prints, h.keepsNothing, h.captures⟩ rfl rfl
  | stop => exact .quiet hanswer ⟨hagrees, h.prints, h.keepsNothing, h.captures⟩ rfl rfl

/-- Executing a command is mirrored, also where it is refused after a stop. -/
theorem execute (command : Command) : Step.Mirrors t (s.execute command) (t.execute command) := by
  cases hphase : s.phase with
  | terminated =>
    rw [execute_terminated hphase, execute_terminated (h.agrees.phase.symm.trans hphase)]
    exact .quiet rfl h rfl rfl
  | idle =>
    have hphase' : t.phase = .idle := h.agrees.phase.symm.trans hphase
    have hdone := h.perform command
    rw [execute_of_idle hphase, execute_of_idle hphase']
    exact hdone.congr (congrArg Except.ok hdone.answer) rfl rfl rfl

/-- Executing a line is mirrored, whether it is a command or not. -/
theorem executeLine (line : String) :
    Step.Mirrors t (s.executeLine line) (t.executeLine line) := by
  cases hline : Command.ofLine line.toList with
  | error rejection =>
    rw [executeLine_of_rejected hline, executeLine_of_rejected hline]
    exact .quiet rfl h (printed_map_logged _) rfl
  | ok asked =>
    cases asked with
    | none =>
      rw [executeLine_of_blank hline, executeLine_of_blank hline]
      exact .quiet rfl h (printed_map_logged _) rfl
    | some command =>
      have hdone := h.execute command
      simp only [Session.executeLine, hline]
      exact hdone.congr hdone.answer rfl rfl (by rw [printed_append, printed_map_logged]; rfl)

/-- Feeding a line is mirrored, with the report of a rejection. -/
theorem feed (line : String) : Step.Mirrors t (s.feed line) (t.feed line) := by
  have hdone := h.executeLine line
  cases hanswer : (s.executeLine line).answer with
  | ok flow =>
    rw [feed_of_ok hanswer, feed_of_ok (hdone.answer.symm.trans hanswer)]
    exact hdone.congr rfl rfl rfl rfl
  | error refusal =>
    rw [feed_of_error hanswer, feed_of_error (hdone.answer.symm.trans hanswer)]
    have hreported := hdone.after (hdone.state.report refusal) []
    exact hreported.congr rfl rfl rfl rfl

end Session.Mirrors

namespace Session

/-- **What an idle session that captures adds to its items** in return for a line is what it would
show if it printed. -/
theorem transcript_feed {s : Session} (hs : s.phase = .idle) (hcaptures : s.capturing = true)
    (line : String) :
    (s.feed line).state.transcript.toList = s.transcript.toList ++ (s.shown line).map Prod.snd := by
  let p : Session := { s with capturing := false, transcript := #[] }
  have hmirrors : p.Mirrors s := ⟨⟨rfl, rfl⟩, rfl, rfl, hcaptures⟩
  have hprinted : printed (p.feed line).events = s.shown line :=
    printed_feed (s := p) hs rfl line
  rw [(hmirrors.feed line).items, hprinted]

end Session

end SetCalculator
