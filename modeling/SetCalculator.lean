import SetCalculator.Main
import SetCalculator.Proofs.Line.Layout
import SetCalculator.Proofs.Line.Commas
import SetCalculator.Proofs.Text.Numeral
import SetCalculator.Proofs.Line.Operands
import SetCalculator.Proofs.Line.Agreement
import SetCalculator.Proofs.Line.Grammar
import SetCalculator.Proofs.MemberSet.Finite
import SetCalculator.Proofs.MemberSet.Rendering
import SetCalculator.Proofs.Session.Refinement
import SetCalculator.Proofs.Session.Change
import SetCalculator.Proofs.Line.Spacing
import SetCalculator.Proofs.Output.Printed
import SetCalculator.Proofs.Session.Feed
import SetCalculator.Proofs.Text.PhysicalLine
import SetCalculator.Proofs.Script.Cut
import SetCalculator.Proofs.Program.FrontEnds
import SetCalculator.Proofs.Prompt.Conversation
import SetCalculator.Proofs.Output.Items
import SetCalculator.Proofs.Session.Mirror
import SetCalculator.Proofs.Script.Calls
import SetCalculator.Proofs.Program.Streams
import SetCalculator.Proofs.Script.Transcript
import SetCalculator.Proofs.Session.Spacing
import SetCalculator.Proofs.Script.Strict
import SetCalculator.Proofs.Script.Replay
import SetCalculator.Proofs.Line.Trace
import SetCalculator.Proofs.Session.Stopped
import SetCalculator.Proofs.Session.Stopping
import SetCalculator.Proofs.Session.ReadBack
import SetCalculator.Proofs.Directory.Writing
import SetCalculator.Proofs.Prompt.History
import SetCalculator.Proofs.Program.Persistence
import SetCalculator.Proofs.Log.Selection
import SetCalculator.Proofs.Output.Log
import SetCalculator.Proofs.Directory.Errors
import SetCalculator.Proofs.Program.Legible
import SetCalculator.Proofs.Program.Observation
import SetCalculator.Proofs.Line.Violations
import SetCalculator.Proofs.Line.Renaming
import SetCalculator.Proofs.Session.Renaming
import SetCalculator.Proofs.Session.Interference
import SetCalculator.Proofs.Program.Configurations
import SetCalculator.Proofs.Text.Offsets
import SetCalculator.Proofs.Line.Tokens
import SetCalculator.Proofs.Text.Limits
import SetCalculator.Proofs.Line.Numbers
import SetCalculator.Proofs.Line.Normal
import SetCalculator.Proofs.MemberSet.Building
import SetCalculator.Proofs.MemberSet.Size
import SetCalculator.Proofs.MemberSet.Walk
import SetCalculator.Proofs.MemberSet.Lines
import SetCalculator.Proofs.MemberSet.Length
import SetCalculator.Proofs.MemberSet.Laws
import SetCalculator.Proofs.Register.Writes
import SetCalculator.Proofs.Log.Directives
import SetCalculator.Proofs.Log.Verbosity
