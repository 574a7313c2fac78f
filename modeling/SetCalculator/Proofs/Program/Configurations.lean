import Mathlib.Data.List.Nodup
import SetCalculator.Proofs.Line.Operands
import SetCalculator.Proofs.Program.Arguments

/-!
# Options in any order

Options can be spelled out in words: one word for each flag that is raised and one for each setting
that has a value (`LongOption`, `spelling`). In whatever order these words are given, they are read
as these options, and then the options are judged together (`parse_order`). The order cannot matter,
because what is known after some of the words is what they say, no more and no less: `Says` turns
options into the set of all that they say, options that say the same are the same
(`eq_of_says_iff`), and a word that says something new adds just this (`takeWord_says`). No two
steps are exchanged in the proof; each only needs that its word was not there before.

What is judged together is that a script and the prompt rule each other out and that `--strict` goes
with a script (`Options.GoTogether`). The second rule yields to the first: an option of the prompt
rules the script out, and then `--strict` is let through without one.
-/

namespace SetCalculator

/-- Whether an option is given that only the prompt has. -/
def Options.prompting (options : Options) : Bool :=
  options.quiet || options.echo || options.history.isSome

/-- A script comes without options of the prompt. `--strict` comes with a script, or with an option
of the prompt, which rules a script out. -/
structure Options.GoTogether (options : Options) : Prop where
  script : options.script.isSome → options.quiet = false ∧ options.echo = false ∧
    options.history = none
  strict : options.strict = true → options.script.isSome ∨ options.prompting

namespace CommandLine

/-! ## What options say -/

/-- A long option as it is written: a flag, or a setting with its value in the same word. -/
inductive LongOption where
  | flag (flag : Flag)
  | setting (setting : Setting) (value : String)
  deriving DecidableEq, Repr

/-- The name of a setting. -/
def Setting.name : Setting → String
  | script => "script"
  | history => "history"

/-- The word for a setting with its value. -/
def Setting.word (setting : Setting) (value : String) : String :=
  "--" ++ setting.name ++ "=" ++ value

/-- The word for an option. -/
def LongOption.word : LongOption → String
  | flag f => f.word
  | setting s value => s.word value

/-- Whether a flag is raised. -/
def isRaised (options : Options) : Flag → Bool
  | .strict => options.strict
  | .quiet => options.quiet
  | .echo => options.echo
  | .help => false
  | .version => false

/-- Options say that a flag is raised and that a setting has a value. -/
def Says (options : Options) : LongOption → Prop
  | .flag flag => isRaised options flag = true
  | .setting setting value => valueOf options setting = some value

/-- All that options say. -/
def spelling (options : Options) : List LongOption :=
  ([.script, .history] : List Setting).filterMap
      (fun setting => (valueOf options setting).map (.setting setting)) ++
    (([.strict, .quiet, .echo] : List Flag).filter (isRaised options)).map .flag

variable {options given : Options} {option : LongOption} {order : List LongOption}

/-- The spelling of some options is all that they say. -/
theorem mem_spelling : option ∈ spelling options ↔ Says options option := by
  cases option with
  | flag f => cases f <;> simp [spelling, Says, isRaised]
  | setting s value => cases s <;> simp [spelling, Says]

/-- Nothing is said twice. -/
theorem nodup_spelling (options : Options) : (spelling options).Nodup := by
  have hsettings : (([.script, .history] : List Setting).filterMap
      (fun setting => (valueOf options setting).map (LongOption.setting setting))).Nodup := by
    refine List.Nodup.filterMap ?_ (by decide)
    intro s s' o ho ho'
    obtain ⟨v, -, rfl⟩ := Option.map_eq_some_iff.1 ho
    obtain ⟨v', -, heq⟩ := Option.map_eq_some_iff.1 ho'
    cases heq
    rfl
  have hflags : ((([.strict, .quiet, .echo] : List Flag).filter (isRaised options)).map
      LongOption.flag).Nodup :=
    List.Nodup.map (fun _ _ heq => by cases heq; rfl) (List.Nodup.filter _ (by decide))
  refine hsettings.append hflags ?_
  intro o ho ho'
  obtain ⟨f, -, rfl⟩ := List.mem_map.1 ho'
  obtain ⟨s, -, hs⟩ := List.mem_filterMap.1 ho
  obtain ⟨v, -, heq⟩ := Option.map_eq_some_iff.1 hs
  cases heq

/-- **Options are what they say.** -/
theorem eq_of_says_iff (h : ∀ option, Says options option ↔ Says given option) :
    options = given := by
  have hflag (f : Flag) : isRaised options f = isRaised given f := Bool.eq_iff_iff.2 (h (.flag f))
  have hsetting (s : Setting) : valueOf options s = valueOf given s :=
    Option.ext fun value => h (.setting s value)
  obtain ⟨script, strict, quiet, echo, history⟩ := options
  obtain ⟨script', strict', quiet', echo', history'⟩ := given
  congr
  · exact hsetting .script
  · exact hflag .strict
  · exact hflag .quiet
  · exact hflag .echo
  · exact hsetting .history

/-! ## One word -/

/-- The value of a setting stands after the first equals sign, whatever it holds. -/
theorem takeLong_setting (p : Progress) (setting : Setting) (value : List Char) :
    takeLong p (setting.name.toList ++ '=' :: value) =
      takeSetting p setting (String.ofList value) := by
  have hlookup : longNames.lookup setting.name = some (.setting setting) := by
    cases setting <;> rfl
  have hname : ∀ c ∈ setting.name.toList, decide (c ≠ '=') = true := by
    cases setting <;> simp [Setting.name]
  rw [takeLong, List.takeWhile_append_of_pos hname, List.dropWhile_append_of_pos hname]
  simp [hlookup]

/-- A long option with its value in the same word sets this value. -/
theorem takeWord_setting {p : Progress} (h : p.ended = false) (setting : Setting) (value : String) :
    takeWord p (setting.word value) = takeSetting p setting value := by
  have hword : (setting.word value).toList =
      '-' :: '-' :: (setting.name.toList ++ '=' :: value.toList) := by
    simp [Setting.word]
  have hlong := takeLong_setting p setting value.toList
  rw [String.ofList_toList] at hlong
  rw [← hlong, takeWord, if_neg (by simp [h]), hword]
  cases setting <;> rfl

/-- A flag that can be given is raised, unless it was. -/
theorem raise_says {flag : Flag} (hgiven : isRaised given flag = true)
    (hnew : ¬ isRaised options flag = true) :
    ∃ raised, raise options flag = .ok raised ∧
      ∀ option, Says raised option ↔ Says options option ∨ option = .flag flag := by
  cases flag with
  | help | version => cases hgiven
  | strict | quiet | echo =>
    refine ⟨_, if_neg hnew, ?_⟩
    rintro (f | ⟨s, v⟩)
    · cases f <;> simp [Says, isRaised]
    · cases s <;> simp [Says, valueOf]

/-- A setting gets a value that is not empty, unless it had one. -/
theorem assign_says {setting : Setting} {value : String} (hvalue : value ≠ "")
    (hnew : valueOf options setting = none) :
    ∃ assigned, assign options setting value = .ok assigned ∧
      ∀ option, Says assigned option ↔ Says options option ∨ option = .setting setting value := by
  have hunset : ¬ (valueOf options setting).isSome = true := by simp [hnew]
  cases setting with
  | script | history =>
    refine ⟨_, (if_neg hunset).trans (if_neg hvalue), ?_⟩
    rintro (f | ⟨s, v⟩)
    · cases f <;> simp [Says, isRaised]
    · cases s <;> simp_all [Says, valueOf, eq_comm]

/-- What is known while no value is awaited. -/
def settled (options : Options) : Progress := ⟨options, none, false⟩

/-- **One word.** If options say nothing but what is given, a word for something else that is given
adds just this. -/
theorem takeWord_says (hvalues : ∀ setting, valueOf given setting ≠ some "")
    (hwithin : ∀ o, Says options o → Says given o) (hgiven : Says given option)
    (hnew : ¬ Says options option) :
    ∃ after, takeWord (settled options) option.word = .ok (settled after) ∧
      ∀ o, Says after o ↔ Says options o ∨ o = option := by
  cases option with
  | flag f =>
    obtain ⟨raised, hraise, hsays⟩ := raise_says hgiven hnew
    refine ⟨raised, (takeWord_flag rfl f).trans ?_, hsays⟩
    simp only [takeFlag, settle, settled, hraise, bind, Except.bind]
  | setting s value =>
    have hvalue : value ≠ "" := by
      rintro rfl
      exact hvalues s hgiven
    -- a value that the setting already had would be given as well, so it would be this one
    have hunset : valueOf options s = none := by
      cases hold : valueOf options s with
      | none => rfl
      | some old =>
        have holdGiven : valueOf given s = some old := hwithin (.setting s old) hold
        cases holdGiven.symm.trans hgiven
        exact absurd hold hnew
    obtain ⟨assigned, hassign, hsays⟩ := assign_says hvalue hunset
    refine ⟨assigned, (takeWord_setting rfl s value).trans ?_, hsays⟩
    simp only [takeSetting, settle, settled, hassign, bind, Except.bind]

/-! ## All words -/

/-- **Words in any order** add what they say to what is known, as long as each says something
new. -/
theorem foldlM_takeWord_says (hvalues : ∀ setting, valueOf given setting ≠ some "")
    (hwithin : ∀ o, Says options o → Says given o) (hnodup : order.Nodup)
    (hgiven : ∀ o ∈ order, Says given o) (hnew : ∀ o ∈ order, ¬ Says options o) :
    ∃ after, (order.map LongOption.word).foldlM takeWord (settled options) = .ok (settled after) ∧
      ∀ o, Says after o ↔ Says options o ∨ o ∈ order := by
  induction order generalizing options with
  | nil => exact ⟨options, rfl, by simp⟩
  | cons option rest ih =>
    rw [List.nodup_cons] at hnodup
    rw [List.forall_mem_cons] at hgiven hnew
    obtain ⟨next, htake, hnext⟩ := takeWord_says hvalues hwithin hgiven.1 hnew.1
    have hwithinNext : ∀ o, Says next o → Says given o := by
      intro o ho
      rcases (hnext o).1 ho with ho | rfl
      · exact hwithin o ho
      · exact hgiven.1
    -- What is still to come was not said just now, either, because nothing is said twice.
    have hnewNext : ∀ o ∈ rest, ¬ Says next o := by
      intro o ho hsaid
      rcases (hnext o).1 hsaid with hsaid | rfl
      · exact hnew.2 o ho hsaid
      · exact hnodup.1 ho
    obtain ⟨after, hrest, hafter⟩ := ih hwithinNext hnodup.2 hgiven.2 hnewNext
    refine ⟨after, ?_, fun o => ?_⟩
    · simp only [List.map_cons, List.foldlM_cons, htake, bind, Except.bind]
      exact hrest
    · rw [hafter, hnext, List.mem_cons, or_assoc]

/-- **The order does not matter.** Options that are spelled out are read, whatever the order, and
judged together. -/
theorem parse_order (hvalues : ∀ setting, valueOf options setting ≠ some "")
    (horder : order.Perm (spelling options)) :
    parse (order.map LongOption.word) = conclude options := by
  have hmem (o : LongOption) : o ∈ order ↔ Says options o := horder.mem_iff.trans mem_spelling
  have hnothing (o : LongOption) : ¬ Says Progress.initial.options o := by
    cases o with
    | flag f => cases f <;> simp [Says, isRaised, Progress.initial]
    | setting s v => cases s <;> simp [Says, valueOf, Progress.initial]
  have hwithin (o : LongOption) : Says Progress.initial.options o → Says options o :=
    fun ho => absurd ho (hnothing o)
  obtain ⟨after, hwords, hafter⟩ := foldlM_takeWord_says hvalues hwithin
    (horder.nodup_iff.2 (nodup_spelling options)) (fun o ho => (hmem o).1 ho)
    (fun o _ => hnothing o)
  have hsame : after = options :=
    eq_of_says_iff fun o => by rw [hafter, hmem, or_iff_right (hnothing o)]
  subst hsame
  have hread : (order.map LongOption.word).foldlM takeWord Progress.initial = .ok (settled after) :=
    hwords
  simp only [parse, hread, settle, settled, bind, Except.bind]

/-! ## Options that go together -/

/-- Options ask for no prompt if none of the three for the prompt is there. -/
theorem prompting_eq_false_iff : options.prompting = false ↔
    options.quiet = false ∧ options.echo = false ∧ options.history = none := by
  simp [Options.prompting, and_assoc]

/-- A script conflicts with any option for the prompt. -/
theorem conclude_of_conflict (hscript : options.script.isSome) (hprompt : options.prompting) :
    conclude options = .error .argumentConflict :=
  if_pos (Bool.and_eq_true_iff.2 ⟨hscript, hprompt⟩)

/-- Strictness requires a script, if no option for the prompt is there to conflict with one. -/
theorem conclude_of_missing (hstrict : options.strict = true) (hscript : options.script = none)
    (hprompt : options.prompting = false) : conclude options = .error .missingRequired := by
  have hquiet := prompting_eq_false_iff.1 hprompt
  simp [conclude, hstrict, hscript, hquiet]

/-- **What is accepted** is what goes together. -/
theorem conclude_eq_ok_iff : conclude options = .ok options ↔ options.GoTogether := by
  constructor
  · intro h
    refine ⟨fun hscript => prompting_eq_false_iff.1 ?_, fun hstrict => ?_⟩
    · by_contra hprompt
      rw [conclude_of_conflict hscript (by simpa using hprompt)] at h
      cases h
    · by_contra hneither
      obtain ⟨hscript, hprompt⟩ := not_or.1 hneither
      rw [conclude_of_missing hstrict (by simpa using hscript) (by simpa using hprompt)] at h
      cases h
  · rintro ⟨hscript, hstrict⟩
    have hconflict : ¬ (options.script.isSome && options.prompting) = true := by
      intro h
      obtain ⟨hgiven, hprompt⟩ := Bool.and_eq_true_iff.1 h
      rw [prompting_eq_false_iff.2 (hscript hgiven)] at hprompt
      cases hprompt
    have hmissing :
        ¬ (options.strict && options.script.isNone && !options.prompting) = true := by
      simp only [Bool.and_eq_true, Bool.not_eq_true', not_and]
      rintro ⟨hgiven, hnone⟩ hprompt
      rcases hstrict hgiven with h | h
      · simp [Option.isNone_iff_eq_none.1 hnone] at h
      · rw [hprompt] at h
        cases h
    exact (if_neg hconflict).trans (if_neg hmissing)

/-- **Options are read if and only if they go together.** If there are words that give them, they go
together; and words that spell them out, in any order, are read as them if they go together, and
else it is said what is in the way. -/
theorem options_in_any_order (options : Options) :
    (∀ words, parse words = .ok options → options.GoTogether) ∧
    ∀ order : List LongOption,
      options.script ≠ some "" → options.history ≠ some "" → order.Perm (spelling options) →
      let answer := parse (order.map LongOption.word)
      (options.GoTogether → answer = .ok options) ∧
      (options.script.isSome → options.prompting → answer = .error .argumentConflict) ∧
      (options.strict = true → options.script = none → options.prompting = false →
        answer = .error .missingRequired) := by
  refine ⟨fun words h => conclude_eq_ok_iff.1 (conclude_of_parse h), ?_⟩
  intro order hscript hhistory horder answer
  have hvalues : ∀ setting, valueOf options setting ≠ some "" := by
    rintro (_ | _)
    · exact hscript
    · exact hhistory
  have hanswer : answer = conclude options := parse_order hvalues horder
  rw [hanswer]
  exact ⟨conclude_eq_ok_iff.2, conclude_of_conflict, conclude_of_missing⟩

/-- Files whose names look like options, and options that are one thing too many or too few. -/
theorem options_in_any_order_dashed_names :
    let script : Options := ⟨some "-a=b", true, false, false, none⟩
    let both : Options := ⟨some "-a=b", true, true, false, some "--"⟩
    let neither : Options := ⟨none, true, false, false, none⟩
    ([.flag .strict, .setting .script "-a=b"] : List LongOption).Perm (spelling script) ∧
    parse ["--strict", "--script=-a=b"] = .ok script ∧ script.GoTogether ∧
    ([.setting .history "--", .flag .strict, .setting .script "-a=b", .flag .quiet] :
      List LongOption).Perm (spelling both) ∧ both.prompting = true ∧
    parse ["--history=--", "--strict", "--script=-a=b", "--quiet"] = .error .argumentConflict ∧
    neither.prompting = false ∧ parse ["--strict"] = .error .missingRequired := by
  intro script both neither
  have hscript : ([.flag .strict, .setting .script "-a=b"] : List LongOption).Perm
      (spelling script) := by decide
  have hboth : ([.setting .history "--", .flag .strict, .setting .script "-a=b", .flag .quiet] :
      List LongOption).Perm (spelling both) := by decide
  have hread : parse ["--strict", "--script=-a=b"] = .ok script :=
    ((options_in_any_order script).2 _ (by decide) (by decide) hscript).1
      ⟨fun _ => ⟨rfl, rfl, rfl⟩, fun _ => .inl rfl⟩
  have hconflict : parse ["--history=--", "--strict", "--script=-a=b", "--quiet"] =
      .error .argumentConflict :=
    ((options_in_any_order both).2 _ (by decide) (by decide) hboth).2.1 rfl rfl
  have hmissing : parse ["--strict"] = .error .missingRequired :=
    ((options_in_any_order neither).2 [.flag .strict] (by decide) (by decide) (by decide)).2.2
      rfl rfl rfl
  exact ⟨hscript, hread, (options_in_any_order script).1 _ hread, hboth, rfl, hconflict, rfl,
    hmissing⟩

/-- **Strictness does not bring a script.** An option of the prompt is enough for words to be read
that ask for strictness and give no script. -/
theorem strict_without_a_script :
    ¬ ∀ words options, parse words = .ok options →
      options.strict = true → options.script.isSome = true := by
  intro h
  have hread : parse ["--strict", "--quiet"] = .ok ⟨none, true, true, false, none⟩ := by
    decide +kernel
  cases h _ _ hread rfl

end CommandLine

end SetCalculator
