import SetCalculator.Proofs.Script.Cut
import SetCalculator.Proofs.Session.Mirror

/-!
# What a script adds to the items of its session

One piece of the input adds the items that `shownFor` lists (`transcript_process`): none for bytes
that are no text and for a line that is passed over, and otherwise the echo of the line and at most
one item that answers it. An echo is therefore found for each line that is not passed over
(`filter_isEcho_shownFor`), and a report for each line that is `Rejected` and for no other
(`shownFor_of_rejected`, `not_isReport_of_mem_shownFor`).
-/

namespace SetCalculator

open Text

/-! ## The echo of a line and the answer to it -/

namespace Session

/-- An echo is one more item. -/
theorem transcript_echo {s : Session} (hcaptures : s.capturing = true) (line : String) :
    (s.echo line).state.transcript.toList = s.transcript.toList ++ ["> " ++ line] := by
  rw [Session.echo, state_emit hcaptures]
  exact Array.toList_push

/-- A line is not answered by an echo. -/
theorem not_isEcho_of_mem_shown {s : Session} {line : String} {shown : Stream × String}
    (h : shown ∈ s.shown line) : ¬ IsEcho shown.2 := by
  rw [Session.shown] at h
  split at h
  · obtain rfl := List.mem_singleton.1 h
    exact not_isEcho_report _
  · obtain rfl := List.mem_singleton.1 h
    exact not_isEcho_render _
  · cases h

/-- Only a line that is rejected is answered by a report. -/
theorem not_isReport_of_mem_shown {s : Session} {line : String} {shown : Stream × String}
    (hline : ∀ rejection, Command.ofLine line.toList ≠ .error rejection)
    (h : shown ∈ s.shown line) : ¬ IsReport shown.2 := by
  rw [Session.shown] at h
  split at h
  · next rejection hrejected => exact absurd hrejected (hline rejection)
  · obtain rfl := List.mem_singleton.1 h
    exact not_isReport_render _
  · cases h

/-- In return for a rejected line its report is shown, and nothing else. -/
theorem shown_of_rejected {s : Session} {line : String} {rejection : Rejection}
    (h : Command.ofLine line.toList = .error rejection) :
    s.shown line = [(.diagnostics, "Error: " ++ rejection.message)] := by
  rw [Session.shown, h]

end Session

namespace Script

/-! ## One piece of the input -/

/-- The items that a piece of the input adds. -/
def shownFor (s : Session) (piece : List UInt8) : List String :=
  match decode? piece with
  | none => []
  | some line =>
    if Skipped line.toList then []
    else ("> " ++ String.ofList (trim line.toList)) :: (s.shown line).map Prod.snd

/-- The piece is a line that is not passed over and rejected. -/
def Rejected (piece : List UInt8) (rejection : Rejection) : Prop :=
  ∃ line, decode? piece = some line ∧ ¬ Skipped line.toList ∧
    Command.ofLine line.toList = .error rejection

section

variable {piece : List UInt8} {line : String} (s : Session)

/-- Bytes that are no text add no items. -/
theorem shownFor_of_notText (h : decode? piece = none) : shownFor s piece = [] := by
  simp only [shownFor, h]

/-- A line that is passed over adds no items. -/
theorem shownFor_of_skipped (h : decode? piece = some line) (hskip : Skipped line.toList) :
    shownFor s piece = [] := by
  simp only [shownFor, h, if_pos hskip]

/-- A line that is not passed over adds its echo and what is shown in return. -/
theorem shownFor_of_not_skipped (h : decode? piece = some line) (hskip : ¬ Skipped line.toList) :
    shownFor s piece =
      ("> " ++ String.ofList (trim line.toList)) :: (s.shown line).map Prod.snd := by
  simp only [shownFor, h, if_neg hskip]

/-- Whether a session captures does not change. -/
theorem capturing_process (piece : List UInt8) : (process s piece).capturing = s.capturing := by
  rw [process]
  split
  · rfl
  · split
    · rfl
    · rw [Session.capturing_feed]
      exact Session.capturing_emit s _ _

end

/-- **What one piece adds**, in a session that is idle and captures. -/
theorem transcript_process {s : Session} (hs : s.phase = .idle) (hcaptures : s.capturing = true)
    (piece : List UInt8) :
    (process s piece).transcript.toList = s.transcript.toList ++ shownFor s piece := by
  cases hdecode : decode? piece with
  | none => rw [process_of_notText s hdecode, shownFor_of_notText s hdecode, List.append_nil]
  | some line =>
    by_cases hskip : Skipped line.toList
    · rw [process_of_skipped s hdecode hskip, shownFor_of_skipped s hdecode hskip, List.append_nil]
    · have hidle : (s.echo (String.ofList (trim line.toList))).state.phase = .idle :=
        (Session.phase_emit s _ _).trans hs
      have hgoesOn : (s.echo (String.ofList (trim line.toList))).state.capturing = true :=
        (Session.capturing_emit s _ _).trans hcaptures
      -- An echo leaves the registers alone, so the line is answered as it would be without it.
      have hshown :
          (s.echo (String.ofList (trim line.toList))).state.shown line = s.shown line := by
        rw [Session.shown, Session.shown, Session.echo, Session.registers_emit]
      rw [process_of_not_skipped s hdecode hskip, shownFor_of_not_skipped s hdecode hskip,
        Session.transcript_feed hidle hgoesOn, hshown, Session.transcript_echo hcaptures,
        List.append_assoc, List.singleton_append]

/-- Nothing that was shown before is taken back. -/
theorem transcript_prefix_process {s : Session} (hcaptures : s.capturing = true)
    (piece : List UInt8) : s.transcript.toList <+: (process s piece).transcript.toList := by
  rw [process]
  split
  · exact List.prefix_rfl
  · split
    · exact List.prefix_rfl
    · next line _ _ =>
      have hgoesOn : (s.echo (String.ofList (trim line.toList))).state.capturing = true :=
        (Session.capturing_emit s _ _).trans hcaptures
      have hechoed : s.transcript.toList <+:
          (s.echo (String.ofList (trim line.toList))).state.transcript.toList := by
        rw [Session.transcript_echo hcaptures]
        exact List.prefix_append _ _
      have hchange := Session.change_feed hgoesOn line
      exact hechoed.trans hchange.transcript_prefix

/-- Of the items for a line that is not passed over, the echo is the only one that looks so. -/
theorem filter_isEcho_shownFor (s : Session) {piece : List UInt8} {line : String}
    (h : decode? piece = some line) (hskip : ¬ Skipped line.toList) :
    (shownFor s piece).filter (fun item => IsEcho item) =
      ["> " ++ String.ofList (trim line.toList)] := by
  have hanswer : ((s.shown line).map Prod.snd).filter (fun item => IsEcho item) = [] := by
    rw [List.filter_eq_nil_iff]
    intro item hitem
    obtain ⟨shown, hshown, rfl⟩ := List.mem_map.1 hitem
    simpa using Session.not_isEcho_of_mem_shown hshown
  rw [shownFor_of_not_skipped s h hskip, List.filter_cons_of_pos (by simpa using isEcho_echo _),
    hanswer]

/-- A rejected line adds an echo and its report. -/
theorem shownFor_of_rejected (s : Session) {piece : List UInt8} {rejection : Rejection}
    (h : Rejected piece rejection) :
    ∃ echo, ¬ IsReport echo ∧ shownFor s piece = [echo, "Error: " ++ rejection.message] := by
  obtain ⟨line, hdecode, hskip, hline⟩ := h
  refine ⟨"> " ++ String.ofList (trim line.toList), not_isReport_echo _, ?_⟩
  rw [shownFor_of_not_skipped s hdecode hskip, Session.shown_of_rejected hline]
  rfl

/-- Where no line is rejected there is no report. -/
theorem not_isReport_of_mem_shownFor {s : Session} {piece : List UInt8}
    (h : ∀ rejection, ¬ Rejected piece rejection) :
    ∀ item ∈ shownFor s piece, ¬ IsReport item := by
  intro item hitem
  rw [shownFor] at hitem
  split at hitem
  · cases hitem
  · next line hdecode =>
    split at hitem
    · cases hitem
    · next hskip =>
      rcases List.mem_cons.1 hitem with rfl | hitem
      · exact not_isReport_echo _
      · obtain ⟨shown, hshown, rfl⟩ := List.mem_map.1 hitem
        refine Session.not_isReport_of_mem_shown ?_ hshown
        intro rejection hline
        exact h rejection ⟨line, hdecode, hskip, hline⟩

end Script

end SetCalculator
