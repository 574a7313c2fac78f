import SetCalculator.Directory
import SetCalculator.Text.PhysicalLine

/-!
# Failures

A run that cannot go on ends with a failure. A failure has a message and the causes beneath it,
outermost first, and the report that ends the diagnostics shows them all: a single cause as it is,
several of them numbered.
-/

namespace SetCalculator

open Text

/-- Why a line could not be read. -/
inductive ReadFailure where
  /-- The bytes of the line are no text. -/
  | notText
  /-- The system refused to read. -/
  | system (error : SystemError)
  deriving DecidableEq, Repr

/-- The text of a failure to read. -/
def ReadFailure.message : ReadFailure → String
  | notText => "stream did not contain valid UTF-8"
  | system error => error.message

/-- A line of input, or why there is none. -/
abbrev InputLine := Except ReadFailure String

/-- The line that the bytes hold. -/
def InputLine.ofBytes (bytes : List UInt8) : InputLine :=
  match decode? bytes with
  | some line => .ok line
  | none => .error .notText

/-- The lines of an input. -/
def inputLines (bytes : List UInt8) : List InputLine :=
  (physicalLines bytes).map InputLine.ofBytes

/-- The lines of what was opened; a directory fails at the first one. -/
def Opened.lines : Opened → List InputLine
  | file contents => inputLines contents
  | directory => [.error (.system .isDirectory)]

/-- Why a run ended without a stop. -/
inductive Failure where
  /-- The script could not be opened. -/
  | cannotOpen (path : String) (cause : SystemError)
  /-- A line of the script could not be read. -/
  | unreadableLine (number : Nat) (cause : ReadFailure)
  /-- A line of a strict script was not executed. -/
  | abortedLine (number : Nat)
  /-- A line at the prompt could not be read. -/
  | unreadableInput (cause : ReadFailure)
  /-- The input ended. -/
  | missingStop
  deriving DecidableEq, Repr

namespace Failure

/-- The message and the messages of the causes. The prompt reads through a reader of its own, which
passes the cause on with a message that repeats it. -/
def chain : Failure → String × List String
  | cannotOpen path cause => ("Failed to open script " ++ path, [cause.message])
  | unreadableLine number cause => ("Error reading line " ++ toString number, [cause.message])
  | abortedLine number => ("Line " ++ toString number ++ ": aborted on rejected command", [])
  | unreadableInput cause => ("Failed to read input", [cause.message, cause.message])
  | missingStop => ("Missing stop command", [])

/-- The causes as they are reported: one as it is, several numbered from zero. -/
def reportCauses : List String → String
  | [] => ""
  | [cause] => "\n\nCaused by:\n    " ++ cause
  | causes =>
    "\n\nCaused by:" ++
      String.join (causes.mapIdx fun i cause => "\n    " ++ toString i ++ ": " ++ cause)

/-- The report, without the end of its last line. -/
def report (failure : Failure) : String :=
  "Error: " ++ failure.chain.1 ++ reportCauses failure.chain.2

end Failure

end SetCalculator
