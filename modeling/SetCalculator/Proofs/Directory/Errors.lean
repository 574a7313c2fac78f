import Mathlib.Data.List.Basic
import SetCalculator.Directory

/-!
# The errors of a directory

Whatever path is followed, and whatever is read or written there, only four errors come out
(`read_error_known`, `write_error_known`). They arise where one part of a path is followed
(`enter_error_known`), at the path as a whole, and at its end.
-/

namespace SetCalculator

/-- The errors that a directory gives. -/
def SystemError.known : List SystemError := [noEntry, notDirectory, isDirectory, nameTooLong]

namespace Directory

open SystemError

variable {d : Directory} {path : String} {cause : SystemError}

/-- One part of a path that cannot be followed gives a known error. -/
theorem enter_error_known {place : Place} {part : String} (h : d.enter place part = .error cause) :
    cause ∈ known := by
  cases place with
  | file name =>
    cases h
    decide
  | free name inside =>
    cases h
    decide
  | here =>
    simp only [enter] at h
    split at h
    · cases h
    split at h
    · cases h
    split at h
    · cases h
      decide
    · cases h
  | outside =>
    simp only [enter] at h
    split at h
    · cases h
    split at h
    · cases h
      decide
    · cases h

/-- Parts of a path that cannot be followed give a known error, by induction on the parts. -/
theorem foldlM_enter_error_known {parts : List String} {place : Place}
    (h : parts.foldlM d.enter place = .error cause) : cause ∈ known := by
  induction parts generalizing place with
  | nil => cases h
  | cons part parts ih =>
    rw [List.foldlM_cons] at h
    cases henter : d.enter place part with
    | error first =>
      rw [henter] at h
      cases h
      exact enter_error_known henter
    | ok next =>
      rw [henter] at h
      exact ih h

/-- A path that cannot be followed gives a known error, also where it is empty or too long. -/
theorem follow_error_known {parts : List String} (h : d.follow path parts = .error cause) :
    cause ∈ known := by
  rw [follow] at h
  split at h
  · cases h
    decide
  split at h
  · cases h
    decide
  · exact foldlM_enter_error_known h

/-- A path for writing that asks for a directory fails in one of three ways. -/
theorem locateForWriting_of_slashed {before : List String}
    (h : beforeSlashedName? (parts path) = some before) :
    ∃ cause, d.locateForWriting path = .error cause ∧
      (d.follow path before = .error cause ∨ (∃ parent, d.enter parent "." = .error cause) ∨
        cause = isDirectory) := by
  cases hparent : d.follow path before with
  | error cause =>
    refine ⟨cause, ?_, .inl rfl⟩
    simp only [locateForWriting, h, hparent, bind, Except.bind]
  | ok parent =>
    cases hstays : d.enter parent "." with
    | error cause =>
      refine ⟨cause, ?_, .inr (.inl ⟨parent, hstays⟩)⟩
      simp only [locateForWriting, h, hparent, hstays, bind, Except.bind]
    | ok place =>
      refine ⟨isDirectory, ?_, .inr (.inr rfl)⟩
      simp only [locateForWriting, h, hparent, hstays, bind, Except.bind]

/-- A path that cannot be opened for writing gives a known error, whatever slashes it ends with. -/
theorem locateForWriting_error_known (h : d.locateForWriting path = .error cause) :
    cause ∈ known := by
  cases hslashed : beforeSlashedName? (parts path) with
  | none =>
    simp only [locateForWriting, hslashed] at h
    exact follow_error_known h
  | some before =>
    obtain ⟨other, hother, hfollow | ⟨parent, hstays⟩ | rfl⟩ :=
      locateForWriting_of_slashed (d := d) hslashed
    · cases hother.symm.trans h
      exact follow_error_known hfollow
    · cases hother.symm.trans h
      exact enter_error_known hstays
    · cases hother.symm.trans h
      decide

/-- **Reading a path gives no errors but the known ones.** -/
theorem read_error_known (h : d.read path = .error cause) : cause ∈ known := by
  rw [read] at h
  split at h
  · next hlocate =>
    cases h
    exact follow_error_known hlocate
  · cases h
  · cases h
  · cases h
  · cases h
    decide

/-- **Writing at a path gives no errors but the known ones.** -/
theorem write_error_known {contents : List UInt8} (h : d.write path contents = .error cause) :
    cause ∈ known := by
  rw [write] at h
  split at h
  · next hlocate =>
    cases h
    exact locateForWriting_error_known hlocate
  · cases h
    decide
  · cases h
    decide
  · cases h
  · cases h
  · cases h
    decide

end Directory

end SetCalculator
