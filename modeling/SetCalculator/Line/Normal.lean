import SetCalculator.Text.Blank

/-!
# The normal form of a line

The normal form drops every blank but one: the first blank after the first word stays, since it
tells where the keyword ends. Whatever else is blank says nothing about the commas.
-/

namespace SetCalculator

open Text

/-- The normal form of what is left of a line, once `textSeen` tells whether anything but blanks
came before it, and `blankKept` whether a blank was kept. -/
def normalizeFrom (textSeen blankKept : Bool) : List Char → List Char
  | [] => []
  | c :: cs =>
    if isBlank c then
      if textSeen && !blankKept then c :: normalizeFrom textSeen true cs
      else normalizeFrom textSeen blankKept cs
    else c :: normalizeFrom true blankKept cs

/-- The line without its leading blanks and without all later blanks but the first. -/
def normalize (line : List Char) : List Char := normalizeFrom false false line

/-! ## Runs of one kind -/

@[simp] theorem normalizeFrom_nil (textSeen blankKept : Bool) :
    normalizeFrom textSeen blankKept [] = [] := rfl

/-- What is not blank passes unchanged. -/
theorem normalizeFrom_append_of_not_blank {run rest : List Char}
    (h : ∀ c ∈ run, isBlank c = false) (blankKept : Bool) :
    normalizeFrom true blankKept (run ++ rest) = run ++ normalizeFrom true blankKept rest := by
  induction run with
  | nil => rfl
  | cons c run ih =>
    have hc := h c (by simp)
    have hrun := ih fun d hd => h d (by simp [hd])
    simp [normalizeFrom, hc, hrun]

/-- Before the text begins, what is not blank opens it. -/
theorem normalizeFrom_false_append {run rest : List Char} (hne : run ≠ [])
    (h : ∀ c ∈ run, isBlank c = false) (blankKept : Bool) :
    normalizeFrom false blankKept (run ++ rest) = run ++ normalizeFrom true blankKept rest := by
  obtain ⟨c, run, rfl⟩ := List.exists_cons_of_ne_nil hne
  obtain ⟨hc, hrun⟩ := List.forall_mem_cons.1 h
  simp [normalizeFrom, hc, normalizeFrom_append_of_not_blank hrun]

/-- Blanks leave nothing before the text begins, nor once a blank was kept. -/
theorem normalizeFrom_append_of_blank {run rest : List Char} (h : ∀ c ∈ run, isBlank c = true)
    {textSeen blankKept : Bool} (hdrop : (textSeen && !blankKept) = false) :
    normalizeFrom textSeen blankKept (run ++ rest) = normalizeFrom textSeen blankKept rest := by
  induction run with
  | nil => rfl
  | cons c run ih =>
    have hc := h c (by simp)
    have hrun := ih fun d hd => h d (by simp [hd])
    simp [normalizeFrom, hc, hdrop, hrun]

/-- Once a blank was kept, all later ones are dropped and nothing else. -/
theorem normalizeFrom_true_true (rest : List Char) :
    normalizeFrom true true rest = rest.filter (!isBlank ·) := by
  induction rest with
  | nil => rfl
  | cons c rest ih => by_cases hc : isBlank c <;> simp [normalizeFrom, hc, ih]

/-- The first blank after the text is kept, and no later one. -/
theorem normalizeFrom_true_false_cons {b : Char} (hb : isBlank b = true) (rest : List Char) :
    normalizeFrom true false (b :: rest) = b :: rest.filter (!isBlank ·) := by
  rw [normalizeFrom, if_pos hb, Bool.not_false, Bool.and_self, if_pos rfl, normalizeFrom_true_true]

example : normalize "  a,b \t c d ".toList = "a,b cd".toList := by decide +kernel

end SetCalculator
