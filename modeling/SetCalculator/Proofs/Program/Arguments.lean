import Mathlib.Data.List.Basic
import SetCalculator.Proofs.Line.Operands
import SetCalculator.CommandLine

/-!
# Arguments that ask for a script

The value of `--script` may be the next word. Which word that is does not matter unless it looks
like an option itself, and `--strict` may follow it. A value is judged only when the next option
comes or the words end, so after the first two words the path still waits
(`foldlM_takeWord_script`). Whatever the words are, the options that they give have been judged
together at the end (`conclude_of_parse`).
-/

namespace SetCalculator.CommandLine

variable {path : String}

/-- What is known once a path waits as the value of `--script`. -/
def awaitingScript (path : String) : Progress :=
  { Progress.initial with pending := some (.script, some path) }

/-- A path waits as the value of `--script` unless it looks like an option. -/
theorem foldlM_takeWord_script (hdash : ∀ c cs, path.toList ≠ '-' :: c :: cs) :
    ["--script", path].foldlM takeWord .initial = .ok (awaitingScript path) := by
  have hawaits : takeWord .initial "--script" =
      .ok { Progress.initial with pending := some (.script, none) } := by
    decide +kernel
  have hvalue : takeWord { Progress.initial with pending := some (.script, none) } path =
      .ok (awaitingScript path) := by
    rw [takeWord]
    simp only [Progress.initial, Bool.false_eq_true, if_false]
    split
    · next h => exact absurd h (hdash _ _)
    · next h => exact absurd h (hdash _ _)
    · next h => exact absurd h (hdash _ _)
    · rfl
  simp only [List.foldlM_cons, List.foldlM_nil, hawaits, hvalue, bind, Except.bind, pure,
    Except.pure]

/-- A path that waits becomes the script. -/
theorem settle_awaitingScript (hne : path ≠ "") :
    settle (awaitingScript path) = .ok ⟨⟨some path, false, false, false, none⟩, none, false⟩ := by
  have hassign : assign (awaitingScript path).options .script path =
      .ok ⟨some path, false, false, false, none⟩ := by
    simp only [assign, valueOf, awaitingScript, Progress.initial, Option.isSome_none,
      Bool.false_eq_true, if_false, hne]
  rw [settle]
  simp only [awaitingScript] at hassign ⊢
  rw [hassign]
  rfl

/-- The word for a flag. -/
def Flag.word : Flag → String
  | strict => "--strict"
  | quiet => "--quiet"
  | echo => "--echo"
  | help => "--help"
  | version => "--version"

/-- The word for a flag takes it. -/
theorem takeWord_flag {p : Progress} (h : p.ended = false) (flag : Flag) :
    takeWord p flag.word = takeFlag p flag := by
  rw [takeWord, if_neg (by simp [h])]
  cases flag <;> rfl

/-- **A script, strict or not**, is read as these options. -/
theorem parse_script_strict (strict : Bool) (hne : path ≠ "")
    (hdash : ∀ c cs, path.toList ≠ '-' :: c :: cs) :
    parse (["--script", path] ++ if strict then ["--strict"] else []) =
      .ok ⟨some path, strict, false, false, none⟩ := by
  have hsettled := settle_awaitingScript hne
  rw [parse, List.foldlM_append, foldlM_takeWord_script hdash]
  cases strict with
  | false =>
    simp only [Bool.false_eq_true, if_false, List.foldlM_nil, bind, Except.bind, pure, Except.pure,
      hsettled]
    rfl
  | true =>
    have hflag : takeWord (awaitingScript path) "--strict" =
        .ok ⟨⟨some path, true, false, false, none⟩, none, false⟩ := by
      refine (takeWord_flag rfl .strict).trans ?_
      rw [takeFlag, hsettled]
      rfl
    simp only [if_true, List.foldlM_cons, List.foldlM_nil, bind, Except.bind, pure, Except.pure,
      hflag]
    rfl

/-- A path that does not look like an option is the script to run, and asks for nothing else. -/
theorem parse_script (hne : path ≠ "") (hdash : ∀ c cs, path.toList ≠ '-' :: c :: cs) :
    parse ["--script", path] = .ok ⟨some path, false, false, false, none⟩ :=
  parse_script_strict false hne hdash

/-- **The options that words give have been judged together**, and were found to go together. -/
theorem conclude_of_parse {words : List String} {options : Options}
    (h : parse words = .ok options) : conclude options = .ok options := by
  unfold parse at h
  obtain ⟨p, -, h⟩ := bind_eq_ok_iff.1 h
  obtain ⟨q, -, h⟩ := bind_eq_ok_iff.1 h
  have hsame : q.options = options := by
    simp only [conclude] at h
    split at h
    · cases h
    split at h
    · cases h
    cases h
    rfl
  rwa [hsame] at h

end SetCalculator.CommandLine
