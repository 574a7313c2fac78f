import SetCalculator.Log.Filter

/-!
# Events

What a run does to the outside is a list of events in the order in which they happen: lines printed
to one of the two output streams, and log records. Which records are shown is decided last, so the
printed lines are the same for every filter.
-/

namespace SetCalculator

open Log

/-- An output stream. -/
inductive Stream where
  /-- The answers. -/
  | output
  /-- The diagnostics; the log goes here too. -/
  | diagnostics
  deriving DecidableEq, Repr

/-- Something that a run does to the outside. -/
inductive Event where
  /-- A text is printed, followed by the end of the line. -/
  | printed (stream : Stream) (text : String)
  /-- A record is logged. -/
  | logged (record : Record)
  deriving DecidableEq, Repr

/-- What an event writes to a stream under a filter. -/
def Event.writtenTo (f : Filter) (stream : Stream) : Event → String
  | printed target text => if target = stream then text ++ "\n" else ""
  | logged record => if stream = .diagnostics ∧ f.shows record then record.render ++ "\n" else ""

/-- What a list of events writes to a stream under a filter. -/
def written (f : Filter) (stream : Stream) (events : List Event) : String :=
  String.join (events.map (Event.writtenTo f stream))

/-- What one step of a run leads to: its answer, the state after it, and what it did. -/
structure Step (σ α : Type) where
  answer : α
  state : σ
  events : List Event

/-- The same step with other events before its own. -/
def Step.after {σ α : Type} (events : List Event) (step : Step σ α) : Step σ α :=
  { step with events := events ++ step.events }

@[simp] theorem written_nil (f : Filter) (stream : Stream) : written f stream [] = "" := rfl

end SetCalculator
