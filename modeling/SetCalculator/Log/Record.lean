import SetCalculator.Text.Terminal

/-!
# Log records

A record says that something happened in one component of the calculator. It has a level, a
message, and fields that give the particulars; it is written on one line. Records are produced
whether anybody looks at them or not: what is shown is decided when they are written. A message may
quote what was read from a file, so it is disarmed first; a field has its written form already.
-/

namespace SetCalculator.Log

/-- How much detail a record gives, from the gravest to the most detailed. -/
inductive Level where
  | error
  | warn
  | info
  | debug
  | trace
  deriving DecidableEq, Repr

namespace Level

/-- The place of a level in the order of detail. -/
def rank : Level → Nat
  | error => 0
  | warn => 1
  | info => 2
  | debug => 3
  | trace => 4

/-- The level at the start of a written record, in five columns. -/
def label : Level → String
  | error => "ERROR"
  | warn => " WARN"
  | info => " INFO"
  | debug => "DEBUG"
  | trace => "TRACE"

/-- The level in the text of a filter. -/
def name : Level → String
  | error => "error"
  | warn => "warn"
  | info => "info"
  | debug => "debug"
  | trace => "trace"

end Level

/-- The part of the calculator that a record comes from. -/
inductive Component where
  /-- The log itself. -/
  | logging
  /-- Reading tokens. -/
  | tokens
  /-- Judging lines. -/
  | verdicts
  /-- Executing commands. -/
  | session
  /-- The prompt. -/
  | prompt
  /-- Running scripts. -/
  | script
  /-- Editing lines, which is not offered for selection. -/
  | editor
  deriving DecidableEq, Repr

namespace Component

/-- The components that are offered for selection, in the order in which they are listed. -/
def all : List Component := [logging, tokens, verdicts, session, prompt, script]

/-- The name by which the user selects the component. -/
def name : Component → String
  | logging => "logging"
  | tokens => "tokenizer"
  | verdicts => "validate"
  | session => "session"
  | prompt => "repl"
  | script => "script"
  | editor => "rustyline"

end Component

/-- One log record. -/
structure Record where
  level : Level
  component : Component
  message : String
  /-- The particulars: name and written value of each. -/
  fields : List (String × String)
  deriving DecidableEq, Repr

/-- The record as it is written, without the end of the line. -/
def Record.render (r : Record) : String :=
  r.level.label ++ " " ++ r.component.name ++ ": "
    ++ String.ofList (Text.disarm r.message.toList)
    ++ String.join (r.fields.map fun f => " " ++ f.1 ++ "=" ++ f.2)

end SetCalculator.Log
