import SetCalculator.Output

/-!
# What is printed

Of what a run does, its log is one part and the lines that it prints are the other. `printed` keeps
the second part, with the stream and the order of the lines; it does not depend on any filter. With
the log switched off nothing else reaches the streams (`written_of_nothing`), so runs that print the
same lines cannot be told apart by what they write.
-/

namespace SetCalculator

open Log

/-- The lines that the events print, each with its stream; records are left out. -/
def printed : List Event → List (Stream × String)
  | [] => []
  | .printed stream text :: events => (stream, text) :: printed events
  | .logged _ :: events => printed events

/-- The text that a stream holds after these lines were printed. -/
def textOn (stream : Stream) : List (Stream × String) → String
  | [] => ""
  | (target, text) :: lines =>
    (if target = stream then text ++ "\n" else "") ++ textOn stream lines

@[simp] theorem printed_nil : printed [] = [] := rfl

@[simp] theorem printed_printed_cons (stream : Stream) (text : String) (events : List Event) :
    printed (.printed stream text :: events) = (stream, text) :: printed events := rfl

@[simp] theorem printed_logged_cons (record : Record) (events : List Event) :
    printed (.logged record :: events) = printed events := rfl

@[simp] theorem printed_append (xs ys : List Event) :
    printed (xs ++ ys) = printed xs ++ printed ys := by
  induction xs with
  | nil => rfl
  | cons x xs ih => cases x <;> simp [ih]

@[simp] theorem printed_map_logged (records : List Record) :
    printed (records.map Event.logged) = [] := by
  induction records with
  | nil => rfl
  | cons r records ih => exact ih

@[simp] theorem textOn_nil (stream : Stream) : textOn stream [] = "" := rfl

@[simp] theorem textOn_cons (stream : Stream) (line : Stream × String)
    (lines : List (Stream × String)) :
    textOn stream (line :: lines) =
      (if line.1 = stream then line.2 ++ "\n" else "") ++ textOn stream lines := rfl

@[simp] theorem textOn_append (stream : Stream) (xs ys : List (Stream × String)) :
    textOn stream (xs ++ ys) = textOn stream xs ++ textOn stream ys := by
  induction xs with
  | nil => simp
  | cons x xs ih => simp [ih, String.append_assoc]

/-- **Without a log, a stream holds the lines printed to it.** -/
theorem written_of_nothing {f : Filter} (h : f.selection = .nothing) (stream : Stream)
    (events : List Event) : written f stream events = textOn stream (printed events) := by
  induction events with
  | nil => rfl
  | cons event events ih =>
    rw [written] at ih
    rw [written, List.map_cons, String.join_cons, ih]
    cases event with
    | printed target text => rfl
    | logged record => simp [Event.writtenTo, Filter.shows_of_nothing h]

end SetCalculator
