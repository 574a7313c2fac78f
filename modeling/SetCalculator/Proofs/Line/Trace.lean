import Mathlib.Data.List.Basic
import SetCalculator.Line.Trace

/-!
# The records of a line

Whatever is read of a line, and however often, its log holds two kinds of records: that of a token
of some text, and that of a verdict on the line (`mem_readingRecords`). What has to be known of such
records is proved once for either kind.
-/

namespace SetCalculator

open Log

/-- Judging a line logs its tokens and its verdict, and nothing else. -/
theorem mem_judgingRecords {line : List Char} {r : Record} (h : r ∈ judgingRecords line) :
    (∃ t : Token, r = t.record) ∨ ∃ verdict, r = verdictRecord line verdict := by
  rw [judgingRecords, List.mem_append, List.mem_singleton] at h
  rcases h with h | h
  · split at h
    · cases h
    · obtain ⟨t, -, rfl⟩ := List.mem_map.1 h
      exact .inl ⟨t, rfl⟩
  · exact .inr ⟨_, h⟩

/-- **Reading the command of a line logs tokens and a verdict**, and nothing else. -/
theorem mem_readingRecords {line : List Char} {r : Record} (h : r ∈ readingRecords line) :
    (∃ t : Token, r = t.record) ∨ ∃ verdict, r = verdictRecord line verdict := by
  rw [readingRecords, List.mem_append] at h
  rcases h with h | h
  · exact mem_judgingRecords h
  · split at h
    · obtain ⟨t, -, rfl⟩ := List.mem_map.1 h
      exact .inl ⟨t, rfl⟩
    · cases h

end SetCalculator
