import SetCalculator.Proofs.Directory.Errors

/-!
# Reading a file that was written

What is written at a path is read from this path afterwards (`Writable.exists_write`). A path is
followed part by part, and the directory is asked only about names (`enter_cases`). Putting a file
there changes the answer for its own name alone (`contents?_put`), and this name can only be the
last part of the path: nothing follows the name of a file, nor one that is free. Up to there the
path leads to the same places (`foldlM_enter_put`).
-/

namespace SetCalculator.Directory

/-- The path is that of a file in the directory, or of one that can be added to it. -/
def Writable (d : Directory) (path : String) : Prop :=
  ∃ name, d.locateForWriting path = .ok (.file name) ∨
    d.locateForWriting path = .ok (.free name true)

/-- The contents of the file at a path, if there is one. -/
def fileAt? (d : Directory) (path : String) : Option (List UInt8) :=
  match d.read path with
  | .ok (.file contents) => some contents
  | _ => none

variable {d : Directory} {name : String}

/-! ## The directory with one more file -/

/-- What is looked up in front of a list of files is the first file or in the rest. -/
theorem lookup_cons_pair (key other : String) (old : List UInt8)
    (files : List (String × List UInt8)) :
    ((key, old) :: files).lookup other = if other = key then some old else files.lookup other := by
  by_cases hother : other = key
  · simp [hother]
  · rw [List.lookup_cons, beq_false_of_ne hother, if_neg hother]

/-- After the contents of one file were replaced, looking up this file gives the new contents if it
was there, and any other file is as before. -/
theorem lookup_replace (files : List (String × List UInt8)) (name other : String)
    (contents : List UInt8) :
    (files.map fun f => if f.1 = name then (name, contents) else f).lookup other =
      if other = name then (files.lookup other).map fun _ => contents else files.lookup other := by
  induction files with
  | nil => simp
  | cons f files ih =>
    obtain ⟨key, old⟩ := f
    rw [List.map_cons, lookup_cons_pair]
    by_cases hkey : key = name
    · subst hkey
      rw [if_pos rfl, lookup_cons_pair, ih]
      by_cases hother : other = key
      · simp [hother]
      · simp [hother]
    · rw [if_neg hkey, lookup_cons_pair, ih]
      by_cases hother : other = key
      · simp [hother, hkey]
      · simp [hother]

/-- The file has the new contents, and the other files keep theirs. -/
theorem contents?_put (d : Directory) (name other : String) (contents : List UInt8) :
    (d.put name contents).contents? other =
      if other = name then some contents else d.contents? other := by
  cases hname : d.contents? name with
  | some old =>
    rw [put, hname, Option.isSome_some, if_pos rfl, contents?, lookup_replace]
    split
    · next heq =>
      rw [contents?] at hname
      rw [heq, hname, Option.map_some]
    · rfl
  | none =>
    rw [put, hname, Option.isSome_none, if_neg Bool.false_ne_true, contents?, List.lookup_append,
      lookup_cons_pair]
    rw [contents?] at hname
    split
    · next heq => rw [heq, hname, Option.none_or]
    · rw [List.lookup_nil, Option.or_none, contents?]

/-! ## Where paths lead -/

/-- Where one part of a path leads. The files matter only for a name: it is that of a file in every
directory that has such a file. -/
theorem enter_cases {place next : Place} {part : String} (h : d.enter place part = .ok next) :
    ((next = .here ∨ next = .outside) ∧ ∀ d' : Directory, d'.enter place part = .ok next) ∨
    next = .free part false ∨
    ((next = .file part ∨ next = .free part true) ∧
      ∀ d' : Directory, (d'.contents? part).isSome → d'.enter place part = .ok (.file part)) := by
  cases place with
  | file other => cases h
  | free other inside => cases h
  | here =>
    simp only [enter] at h ⊢
    split at h
    · next hstays =>
      cases h
      exact .inl ⟨.inl rfl, fun _ => if_pos hstays⟩
    next hstays =>
    split at h
    · next hleaves =>
      cases h
      exact .inl ⟨.inr rfl, fun _ => by rw [if_neg hstays, if_pos hleaves]⟩
    next hleaves =>
    split at h
    · cases h
    next hlong =>
    refine .inr (.inr ⟨?_, fun d' hsome => ?_⟩)
    · split at h
      · cases h
        exact .inl rfl
      · cases h
        exact .inr rfl
    · rw [if_neg hstays, if_neg hleaves, if_neg hlong, if_pos hsome]
  -- Outside no name is that of a file, so what the directory holds does not matter.
  | outside =>
    simp only [enter] at h ⊢
    split at h
    · next hstays =>
      cases h
      exact .inl ⟨.inr rfl, fun _ => if_pos hstays⟩
    split at h
    · cases h
    · cases h
      exact .inr (.inl rfl)

/-- A path cannot go on where no part can follow. -/
theorem foldlM_enter_of_blocked {parts : List String} {place last : Place}
    (hblocked : ∀ part, ∃ cause, d.enter place part = .error cause)
    (h : parts.foldlM d.enter place = .ok last) : parts = [] ∧ last = place := by
  cases parts with
  | nil =>
    cases h
    exact ⟨rfl, rfl⟩
  | cons part parts =>
    obtain ⟨cause, hcause⟩ := hblocked part
    rw [List.foldlM_cons, hcause] at h
    cases h

/-- A path that leads to a name of the directory leads to the file after it was put there. -/
theorem foldlM_enter_put {parts : List String} {place last : Place} (contents : List UInt8)
    (hplace : place = .here ∨ place = .outside) (hlast : last = .file name ∨ last = .free name true)
    (h : parts.foldlM d.enter place = .ok last) :
    parts.foldlM (d.put name contents).enter place = .ok (.file name) := by
  induction parts generalizing place with
  | nil =>
    cases h
    rcases hplace with rfl | rfl
    · simp at hlast
    · simp at hlast
  | cons part parts ih =>
    rw [List.foldlM_cons] at h ⊢
    obtain ⟨next, hnext, hrest⟩ : ∃ next, d.enter place part = .ok next ∧
        parts.foldlM d.enter next = .ok last := by
      cases hnext : d.enter place part with
      | error cause =>
        rw [hnext] at h
        cases h
      | ok next =>
        rw [hnext] at h
        exact ⟨next, rfl, h⟩
    rcases enter_cases hnext with ⟨hstays, hsame⟩ | rfl | ⟨hname, hfound⟩
    · rw [hsame]
      exact ih hstays hrest
    · obtain ⟨-, rfl⟩ := foldlM_enter_of_blocked (fun _ => ⟨_, rfl⟩) hrest
      simp at hlast
    · -- No part follows a name, so this one is the last.
      obtain ⟨rfl, rfl⟩ : parts = [] ∧ last = next := by
        rcases hname with rfl | rfl
        · exact foldlM_enter_of_blocked (fun _ => ⟨_, rfl⟩) hrest
        · exact foldlM_enter_of_blocked (fun _ => ⟨_, rfl⟩) hrest
      obtain rfl : part = name := by
        rcases hname with rfl | rfl
        · simpa using hlast
        · simpa using hlast
      rw [hfound _ (by rw [contents?_put, if_pos rfl]; rfl)]
      rfl

/-- What a path for writing leads to is what it leads to. -/
theorem locate_of_locateForWriting {path : String} {place : Place}
    (h : d.locateForWriting path = .ok place) : d.locate path = .ok place := by
  cases hslashed : beforeSlashedName? (parts path) with
  | none => simpa only [locateForWriting, hslashed] using h
  | some before =>
    obtain ⟨cause, hcause, -⟩ := locateForWriting_of_slashed (d := d) hslashed
    cases hcause.symm.trans h

/-- A path starts in the directory or outside of it. -/
theorem start_eq (path : String) : start path = .here ∨ start path = .outside := by
  unfold start
  split
  · exact .inr rfl
  · exact .inl rfl

/-- Where a file can be written, the path leads to it once it is there. -/
theorem locate_put {path : String} {place : Place} (contents : List UInt8)
    (hplace : place = .file name ∨ place = .free name true) (h : d.locate path = .ok place) :
    (d.put name contents).locate path = .ok (.file name) := by
  unfold locate follow at h ⊢
  split at h
  · cases h
  next hempty =>
  split at h
  · cases h
  next hlong =>
  rw [if_neg hempty, if_neg hlong]
  exact foldlM_enter_put contents (start_eq path) hplace h

/-! ## Reading and writing -/

/-- Reading the path of a file opens this file. -/
theorem read_of_fileAt? {path : String} {contents : List UInt8}
    (h : d.fileAt? path = some contents) : d.read path = .ok (.file contents) := by
  unfold fileAt? at h
  split at h
  · next hread =>
    cases h
    exact hread
  · cases h

namespace Writable

variable {path : String} (h : d.Writable path)
include h

/-- Where a file can be written, reading gives a file or finds nothing. -/
theorem read_eq : d.read path = match d.fileAt? path with
    | some contents => .ok (.file contents)
    | none => .error .noEntry := by
  obtain ⟨name, h | h⟩ := h
  · simp only [fileAt?, read, locate_of_locateForWriting h]
  · simp only [fileAt?, read, locate_of_locateForWriting h]

/-- **What is written at a path is read from it.** -/
theorem exists_write (contents : List UInt8) :
    ∃ d', d.write path contents = .ok d' ∧ d'.fileAt? path = some contents := by
  have hput : ∀ {name place}, (place = .file name ∨ place = .free name true) →
      d.locateForWriting path = .ok place →
      (d.put name contents).fileAt? path = some contents := by
    intro name place hplace hlocate
    have hfound := locate_put contents hplace (locate_of_locateForWriting hlocate)
    simp only [fileAt?, read, hfound, contents?_put, if_true, Option.getD_some]
  obtain ⟨name, h | h⟩ := h
  · exact ⟨d.put name contents, by rw [write, h], hput (.inl rfl) h⟩
  · exact ⟨d.put name contents, by rw [write, h], hput (.inr rfl) h⟩

end Writable

end SetCalculator.Directory
