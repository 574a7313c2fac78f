import Mathlib.Data.List.Chain
import Mathlib.Data.List.DropRight
import SetCalculator.Proofs.Prompt.Conversation

/-!
# The history of a prompt

`History.added` lists the lines that a prompt adds to its history. All that a prompt does to the
history comes down to it: the new history has the old entries and the added lines, cut to the last
hundred, and it is unsaved if a line was added (`foldl_remember`).

The file that holds the entries reads back as them (`load_fileText`). Reading puts each entry
through the same rules as a line that is entered, so this needs that none of them is left out: the
entries are `Sound`, and a prompt adds only lines that keep them so (`Sound.added`). The lines of
the file are those on which the entries were written because an escaped entry has no line feed, and
no carriage return that the end of its line could swallow (`inputLines_fileText`).
-/

namespace SetCalculator

open Text Log

namespace History

/-! ## Lines that are added -/

/-- The lines that are added to the entries, if `last` is the last of them: a line that is blank,
that starts with a blank, or that repeats the entry before it is left out. -/
def added (last : Option String) : List String → List String
  | [] => []
  | line :: lines =>
    if isBlankLine line.toList ∨ line.toList.head?.any isBlank ∨ last = some line then
      added last lines
    else line :: added (some line) lines

/-- Remembering a line appends it and cuts the history, unless it is blank, begins with a blank, or
repeats the last entry. -/
theorem remember_eq (h : History) (line : String) :
    Prompt.remember h line =
      if isBlankLine line.toList ∨ line.toList.head?.any isBlank ∨ h.entries.getLast? = some line
      then h else ⟨(h.entries ++ [line]).rtake limit, true⟩ := by
  rw [Prompt.remember, add, ignores]
  cases line.toList with
  | nil => simp [isBlankLine]
  | cons c cs =>
    cases hc : isBlank c with
    | true => simp [isBlankLine, hc]
    | false => simp [isBlankLine, hc, List.rtake]

/-- Cutting in between makes no difference to the last entries. -/
theorem rtake_rtake_append {α : Type} (xs ys : List α) (n : Nat) :
    (xs.rtake n ++ ys).rtake n = (xs ++ ys).rtake n := by
  simp only [List.rtake_eq_reverse_take_reverse, List.reverse_append, List.reverse_reverse,
    List.take_append, List.take_take, Nat.min_eq_left (Nat.sub_le n _)]

/-- The last of the latest entries is the one added last. -/
theorem getLast?_rtake_concat {α : Type} (xs : List α) (x : α) (n : Nat) :
    ((xs ++ [x]).rtake (n + 1)).getLast? = some x := by
  rw [List.rtake_concat_succ, List.getLast?_concat]

/-- **Remembering lines one after the other** appends those that are added and cuts once at the
end. -/
theorem foldl_remember {h : History} (hfew : h.entries.length ≤ limit) (lines : List String) :
    lines.foldl Prompt.remember h =
      ⟨(h.entries ++ added h.entries.getLast? lines).rtake limit,
        h.unsaved || !(added h.entries.getLast? lines).isEmpty⟩ := by
  induction lines generalizing h with
  | nil => simp [added, List.rtake, Nat.sub_eq_zero_of_le hfew]
  | cons line lines ih =>
    rw [List.foldl_cons, remember_eq, added]
    split
    · exact ih hfew
    · have hlast : ((h.entries ++ [line]).rtake limit).getLast? = some line :=
        getLast?_rtake_concat _ _ 99
      rw [ih (by simp [List.rtake]; omega), hlast, rtake_rtake_append, List.append_assoc]
      simp

/-! ## Entries that are kept -/

/-- None of the entries would be left out if they were entered again, in this order, and none holds
a carriage return. -/
structure Sound (entries : List String) : Prop where
  starts : ∀ entry ∈ entries, entry.toList.head?.all isBlank = false
  differ : entries.IsChain (· ≠ ·)
  noReturn : ∀ entry ∈ entries, '\r' ∉ entry.toList

namespace Sound

/-- Having no entries is sound. -/
theorem nil : Sound [] := ⟨List.forall_mem_nil _, .nil, List.forall_mem_nil _⟩

/-- The last entries are sound as well. -/
theorem suffix {entries last : List String} (h : Sound entries) (hlast : last <:+ entries) :
    Sound last :=
  ⟨fun entry hentry => h.starts entry (hlast.subset hentry), h.differ.suffix hlast,
    fun entry hentry => h.noReturn entry (hlast.subset hentry)⟩

/-- An entry that is added to sound ones keeps them sound. -/
theorem concat {entries : List String} {line : String} (h : Sound entries)
    (hstarts : line.toList.head?.all isBlank = false) (hdiffers : entries.getLast? ≠ some line)
    (hreturn : '\r' ∉ line.toList) : Sound (entries ++ [line]) := by
  refine ⟨?_, ?_, ?_⟩
  · exact List.forall_mem_append.2 ⟨h.starts, List.forall_mem_singleton.2 hstarts⟩
  · refine h.differ.append (.singleton line) ?_
    rintro last hlast other hother rfl
    obtain rfl := Option.some_inj.1 hother
    exact hdiffers hlast
  · exact List.forall_mem_append.2 ⟨h.noReturn, List.forall_mem_singleton.2 hreturn⟩

/-- **A prompt adds no line that would be left out later.** -/
theorem added {entries lines : List String} (h : Sound entries)
    (hlines : ∀ line ∈ lines, '\r' ∉ line.toList) :
    Sound (entries ++ History.added entries.getLast? lines) := by
  induction lines generalizing entries with
  | nil => rwa [History.added, List.append_nil]
  | cons line lines ih =>
    obtain ⟨hreturn, hlines⟩ := List.forall_mem_cons.1 hlines
    rw [History.added]
    split
    · exact ih h hlines
    · next hadds =>
      have hstarts : line.toList.head?.all isBlank = false := by
        cases hline : line.toList with
        | nil => simp [hline, isBlankLine] at hadds
        | cons c cs =>
          rw [hline] at hadds
          exact Bool.eq_false_iff.2 fun hc => hadds (.inr (.inl hc))
      have hsound := ih (h.concat hstarts (fun hlast => hadds (.inr (.inr hlast))) hreturn) hlines
      rwa [List.getLast?_concat, List.append_assoc] at hsound

end Sound

/-! ## The file of the history -/

/-- An escaped entry stands on one line. -/
theorem lineFeed_notMem_escape (entry : List Char) : '\n' ∉ escape entry := by
  intro h
  obtain ⟨c, -, hc⟩ := List.mem_flatMap.1 h
  unfold escapeChar at hc
  split at hc
  · simp at hc
  split at hc
  · simp at hc
  next hfeed => exact hfeed (List.mem_singleton.1 hc).symm

/-- Escaping adds no carriage return. -/
theorem carriageReturn_notMem_escape {entry : List Char} (h : '\r' ∉ entry) :
    '\r' ∉ escape entry := by
  intro hmem
  obtain ⟨c, hentry, hc⟩ := List.mem_flatMap.1 hmem
  unfold escapeChar at hc
  split at hc
  · simp at hc
  split at hc
  · simp at hc
  · rw [List.mem_singleton.1 hc] at h
    exact h hentry

/-- The lines of the file: the format, and the entries as they are written. -/
def fileLines (entries : List String) : List (List Char) :=
  formatLine.toList :: entries.map fun entry => escape entry.toList

/-- The text of a history file is its lines, each with a line feed. -/
theorem fileText_eq (h : History) :
    h.fileText = String.ofList ((fileLines h.entries).flatMap (· ++ ['\n'])) := by
  rw [← String.toList_inj, String.toList_ofList]
  simp [fileText, fileLines, List.flatMap_map]

/-- Every entry is read from the line on which it was written. -/
theorem inputLines_fileText {h : History} (hsound : Sound h.entries) :
    inputLines (encode h.fileText) =
      .ok formatLine :: h.entries.map fun entry => .ok (String.ofList (escape entry.toList)) := by
  have hlines : ∀ line ∈ fileLines h.entries, '\n' ∉ line ∧ line.getLast? ≠ some '\r' := by
    refine List.forall_mem_cons.2 ⟨by decide, ?_⟩
    intro line hline
    obtain ⟨entry, hentry, rfl⟩ := List.mem_map.1 hline
    have hreturn := carriageReturn_notMem_escape (hsound.noReturn entry hentry)
    exact ⟨lineFeed_notMem_escape _, fun hlast => hreturn (List.mem_of_getLast? hlast)⟩
  rw [fileText_eq, inputLines_encode (splitsInto_flatMap hlines), fileLines, List.map_cons,
    String.ofList_toList, List.map_map]
  rfl

/-- Sound entries are loaded as they are. -/
theorem loadEntries_escaped {before entries : List String} (h : Sound (before ++ entries))
    (hfew : (before ++ entries).length ≤ limit) (unsaved : Bool) :
    loadEntries true ⟨⟨before, unsaved⟩, false, []⟩
        (entries.map fun entry => .ok (String.ofList (escape entry.toList))) =
      ⟨⟨before ++ entries, unsaved || !entries.isEmpty⟩, true, []⟩ := by
  induction entries generalizing before unsaved with
  | nil => simp [loadEntries]
  | cons entry entries ih =>
    have hadd : add ⟨before, unsaved⟩ entry = ⟨before ++ [entry], true⟩ := by
      have hstarts := h.starts entry (by simp)
      have hdiffers : before.getLast? ≠ some entry := fun hlast =>
        (List.isChain_append.1 h.differ).2.2 entry hlast entry (by simp) rfl
      have hroom : before.length + 1 - limit = 0 := by
        rw [List.length_append, List.length_cons] at hfew
        omega
      simp [add, ignores, hstarts, hdiffers, hroom]
    rw [List.append_cons] at h hfew ⊢
    have hread : readEntry true (String.ofList (escape entry.toList)) = (entry, []) := by
      simp [readEntry, unescape?_escape]
    simp only [List.map_cons, loadEntries, hread, hadd]
    rw [List.nil_append, ih h hfew]
    simp

/-- **The file reads back as the entries.** -/
theorem load_fileText {h : History} (hsound : Sound h.entries) (hfew : h.entries.length ≤ limit) :
    load (.ok (.file (encode h.fileText))) = ⟨⟨h.entries, false⟩, true, []⟩ := by
  have hbefore : Sound ([] ++ h.entries) := hsound
  simp only [load, Opened.lines, inputLines_fileText hsound, loadLines, if_true]
  rw [empty, loadEntries_escaped hbefore hfew]
  rfl

end History

/-! ## The history after a conversation -/

/-- The lines of a conversation are read from its pieces. -/
theorem Conversation.exists_piece {pieces : List (List UInt8)} {lines : List String} {status : Nat}
    {fatal : String} (h : Conversation pieces lines status fatal) :
    ∀ line ∈ lines, ∃ piece ∈ pieces, decode? piece = some line := by
  induction h with
  | ended => exact List.forall_mem_nil _
  | notText => exact List.forall_mem_nil _
  | stop hdecode => exact List.forall_mem_singleton.2 ⟨_, List.mem_cons_self, hdecode⟩
  | next hdecode _ _ ih =>
    refine List.forall_mem_cons.2 ⟨⟨_, List.mem_cons_self, hdecode⟩, ?_⟩
    intro line hline
    exact List.exists_mem_cons_of_exists (ih line hline)

/-- **A prompt remembers its conversation**, whichever way it ends. -/
theorem Prompt.run_remembers {s : Session} (hs : s.phase = .idle) (h : History) (echoing : Bool)
    (pieces : List (List UInt8)) :
    ∃ lines status fatal, Conversation pieces lines status fatal ∧
      let done := run echoing ⟨s, h⟩ (pieces.map InputLine.ofBytes)
      done.state.history = lines.foldl remember h ∧
      (Program.ending done.answer).1 = status := by
  induction pieces generalizing s h with
  | nil => exact ⟨[], 1, _, .ended, rfl, rfl⟩
  | cons piece pieces ih =>
    cases hdecode : decode? piece with
    | none =>
      rw [run_of_notText hdecode]
      exact ⟨[], 1, _, .notText hdecode, rfl, rfl⟩
    | some line =>
      obtain ⟨hstate, -, -, -⟩ := take_line hs h echoing line
      by_cases hasks : AsksToStop line
      · rw [run_of_stop hs h echoing hdecode pieces hasks, hstate]
        exact ⟨[line], 0, "", .stop hdecode hasks, rfl, rfl⟩
      -- The session that is fed is the one after the echo.
      · have hechoed :
            (if echoing then s.echo line else (⟨(), s, []⟩ : Step Session Unit)).state.phase =
              .idle := by
          cases echoing with
          | true => exact (Session.phase_emit s _ _).trans hs
          | false => exact hs
        obtain ⟨lines, status, fatal, hread, hhistory, hstatus⟩ :=
          ih (Session.phase_feed hechoed hasks) (remember h line)
        rw [run_of_not_stop hs h echoing hdecode pieces hasks, hstate]
        exact ⟨line :: lines, status, fatal, .next hdecode hasks hread, hhistory, hstatus⟩

end SetCalculator
