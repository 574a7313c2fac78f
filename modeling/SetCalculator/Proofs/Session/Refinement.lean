import Mathlib.Logic.Function.Basic
import SetCalculator.Proofs.Line.Agreement
import SetCalculator.Proofs.MemberSet.Rendering
import SetCalculator.Session

/-!
# Sessions refine the calculator on finite sets

`Calculator` is the calculator as its user thinks of it: six finite sets of numbers, a phase, and
the items shown so far. It knows no sections, no listing and no carried count of members. A session
that captures its items goes through the same states, line by line: `Session.Refines` relates the
two states, `Refines.feed` carries it over one line, whatever the line is, and
`feedAll_refines_calculator` over every run of a new session.

What makes reading a line exact is `Command.members_of_ofLine`: an accepted command has no member
that a set would drop.
-/

namespace SetCalculator

/-! ## The calculator on finite sets -/

/-- A calculator that keeps finite sets. -/
structure Calculator where
  sets : Register → Finset Nat
  phase : Phase
  /-- The items shown, oldest first. -/
  items : List String

namespace Calculator

/-- A new calculator. -/
def fresh : Calculator := ⟨fun _ => ∅, .idle, []⟩

/-- Shows one item. -/
def note (c : Calculator) (text : String) : Calculator := { c with items := c.items ++ [text] }

/-- Replaces the set of one register. -/
def assign (c : Calculator) (r : Register) (s : Finset Nat) : Calculator :=
  { c with sets := Function.update c.sets r s }

/-- Executes a command; both operands of an operation are the sets from before it. -/
def perform (c : Calculator) : Command → Flow × Calculator
  | .read target members => (.continue, c.assign target members.toFinset)
  | .print register => (.continue, c.note (setText (c.sets register)))
  | .combine op lhs rhs dest =>
    (.continue, c.assign dest (op.onFinsets (c.sets lhs) (c.sets rhs)))
  | .stop => (.stop, { c with phase := .terminated })

/-- Takes one line. A blank line does nothing, a rejected one only shows why it was rejected, and a
stopped calculator only shows that it has stopped. -/
def step (c : Calculator) (line : String) : Flow × Calculator :=
  match Command.ofLine line.toList with
  | .error rejection => (.continue, c.note ("Error: " ++ rejection.message))
  | .ok none => (.continue, c)
  | .ok (some command) =>
    match c.phase with
    | .terminated => (.stop, c.note "Error: The calculator has already stopped.")
    | .idle => c.perform command

/-- Takes lines one after the other. -/
def run (c : Calculator) : List String → List Flow × Calculator
  | [] => ([], c)
  | line :: lines =>
    let stepped := c.step line
    let rest := stepped.2.run lines
    (stepped.1 :: rest.1, rest.2)

end Calculator

namespace Session

/-- Feeds lines one after the other. -/
def feedAll (s : Session) : List String → Step Session (List Flow)
  | [] => ⟨[], s, []⟩
  | line :: lines =>
    let fed := s.feed line
    let rest := fed.state.feedAll lines
    ⟨fed.answer :: rest.answer, rest.state, fed.events ++ rest.events⟩

/-! ## Same states -/

/-- The session captures, and is in the state of the calculator. -/
structure Refines (s : Session) (c : Calculator) : Prop where
  capturing : s.capturing = true
  sets : ∀ r, (s.registers.get r).toFinset = c.sets r
  phase : s.phase = c.phase
  items : s.transcript.toList = c.items

/-- A new session holds the sets of a fresh calculator. -/
theorem refines_captured : captured.Refines .fresh where
  capturing := rfl
  sets r := by simp [captured, Calculator.fresh]
  phase := rfl
  items := rfl

namespace Refines

variable {s : Session} {c : Calculator}

/-- A session that shows an item refines the calculator that notes this item. -/
theorem emit (h : s.Refines c) (stream : Stream) (text : String) :
    (s.emit stream text).state.Refines (c.note text) := by
  rw [Session.emit, if_pos h.capturing]
  refine ⟨h.capturing, h.sets, h.phase, ?_⟩
  show (s.transcript.push text).toList = c.items ++ [text]
  rw [Array.toList_push, h.items]

/-- Writing a register is putting its finite set, and the others keep theirs. -/
theorem assign (h : s.Refines c) (r : Register) {t : MemberSet} {u : Finset Nat}
    (ht : t.toFinset = u) :
    ({ s with registers := s.registers.set r t } : Session).Refines (c.assign r u) := by
  refine ⟨h.capturing, fun q => ?_, h.phase, h.items⟩
  show ((s.registers.set r t).get q).toFinset = Function.update c.sets r u q
  rw [Registers.get_set, Function.update_apply]
  split
  · exact ht
  · exact h.sets q

/-- **One command.** The hypothesis is what an accepted line guarantees. -/
theorem perform (h : s.Refines c) {command : Command}
    (hmembers : ∀ target members, command = .read target members →
      ∀ m ∈ members, m < MemberSet.universeSize) :
    (s.perform command).answer = (c.perform command).1 ∧
      (s.perform command).state.Refines (c.perform command).2 := by
  cases command with
  | read target members =>
    exact ⟨rfl, h.assign target (MemberSet.toFinset_refill (hmembers target members rfl) _)⟩
  | print register =>
    have htext : (s.registers.get register).render = setText (c.sets register) := by
      rw [MemberSet.render_eq_setText, h.sets register]
    refine ⟨rfl, ?_⟩
    show (s.emit .output _).state.Refines (c.note (setText (c.sets register)))
    rw [← htext]
    exact h.emit _ _
  | combine op lhs rhs dest =>
    refine ⟨rfl, h.assign dest ?_⟩
    rw [SetOperation.toFinset_apply, h.sets lhs, h.sets rhs]
  | stop => exact ⟨rfl, h.capturing, h.sets, rfl, h.items⟩

/-- **One line**, whatever it is: the session and the calculator go on to the same state, and want
the next line or not alike. -/
theorem feed (h : s.Refines c) (line : String) :
    (s.feed line).answer = (c.step line).1 ∧ (s.feed line).state.Refines (c.step line).2 := by
  cases hline : Command.ofLine line.toList with
  | error rejection =>
    simp only [Session.feed, executeLine, Calculator.step, hline, report]
    exact ⟨trivial, h.emit _ _⟩
  | ok asked =>
    cases asked with
    | none =>
      simp only [Session.feed, executeLine, Calculator.step, hline]
      exact ⟨trivial, h⟩
    | some command =>
      cases hphase : c.phase with
      | terminated =>
        have hs : s.phase = .terminated := h.phase.trans hphase
        simp only [Session.feed, executeLine, Calculator.step, hline, hphase,
          execute_terminated hs, report]
        exact ⟨trivial, h.emit _ _⟩
      | idle =>
        have hs : s.phase = .idle := h.phase.trans hphase
        have hmembers : ∀ target members, command = .read target members →
            ∀ m ∈ members, m < MemberSet.universeSize := by
          rintro target members rfl
          exact (Command.members_of_ofLine hline).1
        simp only [Session.feed, executeLine, Calculator.step, hline, hphase, execute, hs]
        exact h.perform hmembers

/-- **Lines one after the other** are answered alike, and the session refines the calculator
still. -/
theorem feedAll (h : s.Refines c) (lines : List String) :
    (s.feedAll lines).answer = (c.run lines).1 ∧
      (s.feedAll lines).state.Refines (c.run lines).2 := by
  induction lines generalizing s c with
  | nil => exact ⟨rfl, h⟩
  | cons line lines ih =>
    obtain ⟨hanswer, hstate⟩ := h.feed line
    obtain ⟨hanswers, hend⟩ := ih hstate
    refine ⟨?_, hend⟩
    simp only [Session.feedAll, Calculator.run, hanswer, hanswers]

end Refines

/-- **A captured session is the calculator on finite sets.** Whatever lines a new session is fed,
after every beginning of them each register holds exactly the set of the calculator, which has no
members but those of the universe; the phase and the captured items are the same, and so is what was
answered to each line. -/
theorem feedAll_refines_calculator (lines : List String) (n : Nat) :
    let fed := Session.captured.feedAll (lines.take n)
    let expected := Calculator.fresh.run (lines.take n)
    (∀ r, (fed.state.registers.get r).toFinset = expected.2.sets r ∧
      expected.2.sets r ⊆ Finset.range 128) ∧
    fed.state.phase = expected.2.phase ∧
    fed.state.transcript.toList = expected.2.items ∧
    fed.answer = expected.1 := by
  intro fed expected
  obtain ⟨hanswer, hstate⟩ := refines_captured.feedAll (lines.take n)
  refine ⟨fun r => ⟨hstate.sets r, ?_⟩, hstate.phase, hstate.items, hanswer⟩
  rw [← hstate.sets r]
  exact MemberSet.toFinset_subset _

end Session

end SetCalculator
