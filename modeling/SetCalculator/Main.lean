import SetCalculator.Program

/-!
# The executable

The outer layer: it fetches the arguments, the settings of the log, files and lines of input, hands
them to the library, and writes the events that come back. At a terminal a prompt is shown before
each line, so lines are fetched one at a time.
-/

namespace SetCalculator.Main

open Log

/-- The number of an error of the operating system, which some calls report negated. -/
def errorNumber (code : UInt32) : Nat :=
  if code.toNat < 0x80000000 then code.toNat else 0x100000000 - code.toNat

/-- The error of the operating system that a failed call reports. -/
def systemError : IO.Error → SystemError
  | .noFileOrDirectory .. => .noEntry
  | .inappropriateType _ code _ => if errorNumber code = 20 then .notDirectory else .isDirectory
  | .permissionDenied .. => ⟨"Permission denied", 13⟩
  | error@(.invalidArgument _ code _) =>
    if errorNumber code = 36 then .nameTooLong else ⟨toString error, 22⟩
  | error => ⟨toString error, 5⟩

/-- Opens a path. -/
def openPath (path : String) : IO (Except SystemError Opened) := do
  try
    let contents ← IO.FS.readBinFile path
    return .ok (.file contents.data.toList)
  catch error =>
    match systemError error with
    | ⟨_, 21⟩ => return .ok .directory
    | cause => return .error cause

/-- Writes events to the two streams. -/
def writeEvents (f : Filter) (events : List Event) : IO Unit := do
  let output ← IO.getStdout
  let diagnostics ← IO.getStderr
  for event in events do
    output.putStr (event.writtenTo f .output)
    diagnostics.putStr (event.writtenTo f .diagnostics)
  output.flush

/-- Fetches the bytes of a line with its end, or none at the end of the input. -/
partial def fetchLine (input : IO.FS.Stream) (line : ByteArray) : IO ByteArray := do
  let next ← input.read 1
  if next.isEmpty then return line
  else if next.data[0]? = some Text.lineFeed then return line ++ next
  else fetchLine input (line ++ next)

/-- Fetches lines until one of them ends the prompt. -/
partial def converse (f : Filter) (echoing : Bool) (p : Prompt) :
    IO (Prompt × Except Failure Unit) := do
  let input ← IO.getStdin
  if ← input.isTty then
    IO.print promptText
    (← IO.getStdout).flush
  let line ← fetchLine input ByteArray.empty
  match inputLines line.data.toList with
  | [] => return (p, (Prompt.run echoing p []).answer)
  | fetched :: _ =>
    let taken := Prompt.take echoing p fetched
    writeEvents f taken.events
    match taken.answer with
    | some result => return (taken.state, result)
    | none => converse f echoing taken.state

/-- Writes the history to its file if it is out of date. -/
def saveHistory (f : Filter) (h : History) (path : String) : IO Unit := do
  if h.needsSaving then
    try
      IO.FS.writeFile path h.fileText
    catch error =>
      writeEvents f [.logged (Prompt.notSaved path (systemError error))]

/-- Runs the prompt. -/
def runPrompt (f : Filter) (options : Options) : IO (Except Failure Unit) := do
  let saved ← options.history.mapM fun path => do return (path, ← openPath path)
  let started := Prompt.start .printing (!options.quiet) saved
  writeEvents f started.events
  let (p, result) ← converse f options.echo started.state
  if let some path := options.history then saveHistory f p.history path
  return result

/-- Runs a script. -/
def runScript (f : Filter) (strict : Bool) (path : String) : IO (Except Failure Unit) := do
  let done := Script.run strict .printing path (← openPath path)
  writeEvents f done.events
  return done.answer

end SetCalculator.Main

open SetCalculator SetCalculator.Main

/-- The program: runs what the arguments ask for, and ends with its status. -/
def main (arguments : List String) : IO UInt32 := do
  let f := Log.Filter.ofSettings (← IO.getEnv "DEBUG") (← IO.getEnv "DEBUG_VERBOSITY")
  writeEvents f [.logged f.opening]
  match CommandLine.parse arguments with
  | .error interruption => return interruption.status.toUInt32
  | .ok options =>
    let result ← match options.script with
      | some path => runScript f options.strict path
      | none => runPrompt f options
    let (status, last) := Program.ending result
    writeEvents f last
    return status.toUInt32
