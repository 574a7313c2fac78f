import SetCalculator.Proofs.Line.Spacing
import SetCalculator.Proofs.Session.Feed

/-!
# Lines that are spaced differently, in a session

A session sees of a line only what it asks for (`executeLine_alike`, `feed_alike`), and what a line
asks for is a matter of its words and of the number of commas in each of its gaps
(`Command.ofLine_congr`). So two lines with the same words and as many commas in corresponding gaps
are judged, executed and fed alike, whatever blanks they are spaced with. Trimming a line is the
case of it that scripts rely on (`executeLine_trim`, `feed_trim`).
-/

namespace SetCalculator

open Text

namespace Session

section

variable (s : Session) (line : String)

/-- A trimmed line is read as the line itself. -/
theorem ofLine_ofList_trim :
    Command.ofLine (String.ofList (trim line.toList)).toList = Command.ofLine line.toList := by
  rw [String.toList_ofList, Command.ofLine_trim]

/-- A line may be trimmed before it is executed. -/
theorem executeLine_trim :
    (s.executeLine (String.ofList (trim line.toList))).Alike (s.executeLine line) :=
  executeLine_alike s (ofLine_ofList_trim line)

/-- A line may be trimmed before it is fed. -/
theorem feed_trim : (s.feed (String.ofList (trim line.toList))).Alike (s.feed line) :=
  feed_alike s (ofLine_ofList_trim line)

end

/-- **Blanks separate, and nothing else.** Two lines with the same words, of which corresponding
gaps hold as many commas, get the same verdict and ask for the same, or are rejected for the same
reason, and no session can tell them apart: whether it executes or feeds them, it answers the same,
shows the same, and has the same registers, phase and items after it. -/
theorem blanks_only_separate {L L' : Layout} {line line' : String} (h : L.Of line.toList)
    (h' : L'.Of line'.toList) (hwords : L.words = L'.words)
    (hcounts : L.commaCounts = L'.commaCounts) :
    Verdict.ofLine line.toList = Verdict.ofLine line'.toList ∧
    Command.ofLine line.toList = Command.ofLine line'.toList ∧
    ∀ s : Session, (s.executeLine line).Alike (s.executeLine line') ∧
      (s.feed line).Alike (s.feed line') := by
  have hasks := Command.ofLine_congr h h' hwords hcounts
  refine ⟨Verdict.ofLine_congr h h' hwords hcounts, hasks, ?_⟩
  intro s
  exact ⟨executeLine_alike s hasks, feed_alike s hasks⟩

/-- The blank that a normal form keeps is an ideographic space in one line, and a no-break space in
the other. -/
theorem blanks_only_separate_ideographic :
    let line := "read_set\u3000SETA,7 ,\t-1"
    let line' := "\u0085 read_set\u00A0 SETA\u2028, 7,-1\u000B"
    let s := captured
    (Layout.ofLine line.toList).words = (Layout.ofLine line'.toList).words ∧
    (Layout.ofLine line.toList).commaCounts = [0, 0, 1, 1, 0] ∧
    Command.ofLine line'.toList = .ok (some (.read .a [7])) ∧
    (s.feed line).state = (s.feed line').state := by
  intro line line' s
  have hwords : (Layout.ofLine line.toList).words = (Layout.ofLine line'.toList).words := by
    decide +kernel
  have hcounts : (Layout.ofLine line.toList).commaCounts =
      (Layout.ofLine line'.toList).commaCounts := by
    decide +kernel
  obtain ⟨-, hasks, halike⟩ := blanks_only_separate (Layout.of_ofLine line.toList)
    (Layout.of_ofLine line'.toList) hwords hcounts
  refine ⟨hwords, by decide +kernel, ?_, (halike s).2.state⟩
  rw [← hasks]
  decide +kernel

end Session

end SetCalculator
