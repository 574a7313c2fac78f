import SetCalculator.Log.Record
import SetCalculator.Text.Blank
import SetCalculator.Text.Integer

/-!
# Log filters

Two settings choose what is logged. One selects the components: a list of names between commas, a
word for all of them, or nothing. The other is a number that selects the level and counts as 3 if
it is greater. The filter has a text of its own (`directives`), which the first record quotes.

A name selects every component whose name begins with it.
-/

namespace SetCalculator.Log

open Text

/-- The components that are logged. -/
inductive Selection where
  /-- No component. -/
  | nothing
  /-- All components. -/
  | everything
  /-- The components that one of the names selects. -/
  | named (names : List (List Char))
  deriving DecidableEq, Repr

/-- Keeps the first of each run of equal neighbours. -/
def collapseRuns {α : Type} [DecidableEq α] : List α → List α
  | [] => []
  | [x] => [x]
  | x :: y :: xs => if x = y then collapseRuns (y :: xs) else x :: collapseRuns (y :: xs)

/-- The values that select all components. -/
def everythingWords : List (List Char) := ["*".toList, "1".toList, "true".toList]

/-- The names in a list between commas, trimmed, without empty and repeated ones. -/
def selectedNames (value : List Char) : List (List Char) :=
  collapseRuns (((value.splitOn ',').map trim).filter (· ≠ []))

/-- The selection that a setting makes. -/
def Selection.ofSetting : Option (List Char) → Selection
  | none => nothing
  | some setting =>
    let value := trim setting
    if value ∈ everythingWords then everything
    else match selectedNames value with
      | [] => nothing
      | names => named names

/-- The value of a word of ASCII digits, if it is one. -/
def number? (word : List Char) : Option Nat :=
  if word = [] then none
  else word.foldlM (fun n c => (digitValue? c).map (n * 10 + ·)) 0

/-- The number in a setting below 256, after one optional plus sign. -/
def verbosity? (setting : List Char) : Option Nat :=
  let value := trim setting
  let digits := if value.head? = some '+' then value.tail else value
  (number? digits).filter (· < 256)

/-- The level for a verbosity. -/
def Level.ofVerbosity : Nat → Level
  | 0 => .error
  | 1 => .info
  | 2 => .debug
  | _ => .trace

/-- The level that a setting selects; without a number in it the verbosity is 1. -/
def Level.ofSetting (setting : Option (List Char)) : Level :=
  Level.ofVerbosity (min 3 ((setting.bind verbosity?).getD 1))

/-- What is logged. -/
structure Filter where
  selection : Selection
  level : Level
  deriving DecidableEq, Repr

namespace Filter

/-- The filter that the two settings describe. -/
def ofSettings (components verbosity : Option String) : Filter :=
  ⟨.ofSetting (components.map String.toList), .ofSetting (verbosity.map String.toList)⟩

/-- The text of the filter. -/
def directives (f : Filter) : String :=
  match f.selection with
  | .nothing => "off"
  | .everything => f.level.name
  | .named names =>
    String.intercalate "," (names.map fun name => String.ofList name ++ "=" ++ f.level.name)

/-- Whether the filter selects a component. -/
def selects (f : Filter) (c : Component) : Bool :=
  match f.selection with
  | .nothing => false
  | .everything => true
  | .named names => names.any fun name => name.isPrefixOf c.name.toList

/-- Whether the filter shows a record. -/
def shows (f : Filter) (r : Record) : Bool :=
  f.selects r.component && r.level.rank ≤ f.level.rank

/-- The record that opens every log. -/
def opening (f : Filter) : Record :=
  ⟨.info, .logging, "logging installed", [("directives", f.directives)]⟩

/-- A filter that selects nothing shows nothing. -/
theorem shows_of_nothing {f : Filter} (h : f.selection = .nothing) (r : Record) :
    f.shows r = false := by
  simp [shows, selects, h]

end Filter

end SetCalculator.Log
