import Mathlib.Data.List.Destutter
import SetCalculator.Log.Filter
import SetCalculator.Proofs.Line.Spacing

/-!
# The text of a filter

A setting is cut at its commas, and what its pieces hold between blanks are the names that it lists
(`listedNames`). It makes no difference that the setting is trimmed as a whole before
(`map_trim_splitOn`), so the selection has one closed form (`Selection.ofSetting_some`): a word for
all components, no names, or the names with each run of equal neighbours collapsed to one.

The text of a filter spells such a list of names out again, each with the level
(`splitOn_directives`). A list of names that is written between commas is read as itself
(`IsListing.ofSetting_intercalate`), unless it is a word for all components; so a text gives the
setting back that it was made from, as far as the setting counts.
-/

namespace SetCalculator.Log

open Text

/-- The pieces of a setting between its commas. -/
def pieces (setting : List Char) : List (List Char) := setting.splitOn ','

/-- The names that a setting lists, in their order: its pieces, trimmed, without the empty ones. -/
def listedNames (setting : List Char) : List (List Char) :=
  ((pieces setting).map trim).filter (· ≠ [])

/-- The names in the text of a filter: what stands in each item before an equals sign. -/
def namesIn (text : List Char) : List (List Char) :=
  (text.splitOn ',').map (·.takeWhile (· ≠ '='))

/-- A list of names that a selection can have. -/
structure IsListing (names : List (List Char)) : Prop where
  ne_nil : names ≠ []
  comma_notMem : ∀ name ∈ names, ',' ∉ name
  trimmed : ∀ name ∈ names, name ≠ [] ∧ trim name = name
  distinct : names.IsChain (· ≠ ·)

/-! ## Pieces between commas -/

/-- The pieces between separators hold none of these. -/
theorem notMem_of_mem_splitOn {c : Char} {text piece : List Char} (h : piece ∈ text.splitOn c) :
    c ∉ piece := by
  induction text generalizing piece with
  | nil =>
    obtain rfl : piece = [] := by simpa using h
    exact List.not_mem_nil
  | cons d text ih =>
    rw [List.splitOn_cons_eq_if_modifyHead] at h
    split at h
    · rcases List.mem_cons.1 h with rfl | h
      · exact List.not_mem_nil
      · exact ih h
    · next hd =>
      obtain ⟨first, more, hsplit⟩ := List.exists_cons_of_ne_nil (List.splitOn_ne_nil c text)
      rw [hsplit, List.modifyHead_cons] at h
      rcases List.mem_cons.1 h with rfl | h
      · have hfirst := ih (hsplit ▸ List.mem_cons_self)
        rw [List.mem_cons, not_or]
        exact ⟨fun hc => hd (beq_iff_eq.2 hc.symm), hfirst⟩
      · exact ih (hsplit ▸ List.mem_cons_of_mem _ h)

/-- Nothing is trimmed off a text without blanks. -/
theorem trim_of_no_blank {text : List Char} (h : ∀ c ∈ text, isBlank c = false) :
    trim text = text := by
  have hfront : text.dropWhile isBlank = text :=
    dropWhile_isBlank_eq_self fun c hc => h c (List.mem_of_head? hc)
  have hback : text.reverse.dropWhile isBlank = text.reverse :=
    dropWhile_isBlank_eq_self fun c hc => h c (List.mem_reverse.1 (List.mem_of_head? hc))
  rw [trim, hfront, hback, List.reverse_reverse]

/-- Blanks at the end of a text are trimmed off. -/
theorem trim_append_blanks {after : List Char} (h : IsBlankRun after) (text : List Char) :
    trim (text ++ after) = trim text := by
  induction after generalizing text with
  | nil => rw [List.append_nil]
  | cons c after ih =>
    have hafter : IsBlankRun after := fun d hd => h d (List.mem_cons_of_mem _ hd)
    rw [List.append_cons, ih hafter, trim_concat (h c List.mem_cons_self)]

/-- Blanks at both ends of a text are trimmed off. -/
theorem trim_pad {before after : List Char} (hbefore : IsBlankRun before)
    (hafter : IsBlankRun after) (text : List Char) :
    trim (before ++ (text ++ after)) = trim text := by
  have hfront : trim (before ++ (text ++ after)) = trim (text ++ after) := by
    rw [trim, List.dropWhile_append_of_pos hbefore, trim]
  rw [hfront, trim_append_blanks hafter]

/-- **Blanks around the pieces.** The blanks at the two ends of a text are blanks at the ends of its
first and last piece, and are trimmed off these as well. -/
theorem map_trim_splitOn {before after : List Char} (hbefore : IsBlankRun before)
    (hafter : IsBlankRun after) (text : List Char) :
    ((before ++ (text ++ after)).splitOn ',').map trim = (text.splitOn ',').map trim := by
  induction hlength : text.length using Nat.strong_induction_on generalizing text before after with
  | _ n ih =>
    by_cases hcomma : ',' ∈ text
    · -- the two ends belong to different pieces
      obtain ⟨front, back, rfl⟩ := List.append_of_mem hcomma
      rw [List.length_append, List.length_cons] at hlength
      have hfront := ih front.length (by omega) hbefore isBlankRun_nil front rfl
      have hback := ih back.length (by omega) isBlankRun_nil hafter back rfl
      have hcut : before ++ (front ++ ',' :: back ++ after) =
          (before ++ (front ++ [])) ++ ',' :: ([] ++ (back ++ after)) := by simp
      rw [hcut, List.splitOn_append_cons_self, List.map_append, hfront, hback,
        List.splitOn_append_cons_self, List.map_append]
    · have hnone : ',' ∉ before ++ (text ++ after) := by
        simp only [List.mem_append, not_or]
        exact ⟨(isBlankRun_iff.1 hbefore).2, hcomma, (isBlankRun_iff.1 hafter).2⟩
      rw [List.splitOn_eq_singleton hnone, List.splitOn_eq_singleton hcomma, List.map_singleton,
        List.map_singleton, trim_pad hbefore hafter]

/-- A setting lists the same names whether it is trimmed before or not. -/
theorem listedNames_trim (setting : List Char) :
    listedNames (trim setting) = listedNames setting := by
  obtain ⟨before, after, hbefore, hafter, heq⟩ := exists_eq_append_trim setting
  have hpieces := map_trim_splitOn hbefore hafter (trim setting)
  rw [← heq] at hpieces
  rw [listedNames, listedNames, pieces, pieces, hpieces]

/-- A word without commas that is left after trimming is all there is between commas. -/
theorem pieces_of_trim {setting : List Char} (h : ',' ∉ trim setting) :
    pieces setting = [setting] := by
  obtain ⟨before, after, hbefore, hafter, heq⟩ := exists_eq_append_trim setting
  refine List.splitOn_eq_singleton fun hcomma => ?_
  rw [heq, List.mem_append, List.mem_append] at hcomma
  rcases hcomma with hcomma | hcomma | hcomma
  · exact (isBlankRun_iff.1 hbefore).2 hcomma
  · exact h hcomma
  · exact (isBlankRun_iff.1 hafter).2 hcomma

/-- The names listed are what is left of the pieces after trimming, if anything is. -/
theorem mem_listedNames {setting name : List Char} :
    name ∈ listedNames setting ↔ name ≠ [] ∧ ∃ piece ∈ pieces setting, trim piece = name := by
  rw [listedNames, List.mem_filter, List.mem_map, decide_eq_true_eq, and_comm]

/-- A setting lists no names exactly if all its pieces are blank. -/
theorem listedNames_eq_nil_iff {setting : List Char} :
    listedNames setting = [] ↔ ∀ piece ∈ pieces setting, isBlankLine piece = true := by
  rw [listedNames, List.filter_eq_nil_iff, List.forall_mem_map]
  simp only [decide_eq_true_eq, not_not, trim_eq_nil_iff]

/-- A name that is listed is not empty, and has no blanks at its ends. -/
theorem trimmed_of_mem_listedNames {setting name : List Char} (h : name ∈ listedNames setting) :
    name ≠ [] ∧ trim name = name := by
  obtain ⟨hne, piece, -, rfl⟩ := mem_listedNames.1 h
  exact ⟨hne, trim_trim piece⟩

/-- A name that is listed stands between commas and holds none. -/
theorem comma_notMem_of_mem_listedNames {setting name : List Char}
    (h : name ∈ listedNames setting) : ',' ∉ name := by
  obtain ⟨-, piece, hpiece, rfl⟩ := mem_listedNames.1 h
  exact fun hcomma => notMem_of_mem_splitOn hpiece (mem_of_mem_trim hcomma)

/-- A name that is listed holds no equals sign if no piece does. -/
theorem equals_notMem_of_mem_listedNames {setting name : List Char}
    (hequals : ∀ piece ∈ pieces setting, '=' ∉ piece) (h : name ∈ listedNames setting) :
    '=' ∉ name := by
  obtain ⟨-, piece, hpiece, rfl⟩ := mem_listedNames.1 h
  exact fun hmem => hequals piece hpiece (mem_of_mem_trim hmem)

/-! ## What a setting selects -/

/-- The names that are selected are the list without stuttering, so what is known of `destutter`
holds of them. -/
theorem collapseRuns_eq_destutter {α : Type} [DecidableEq α] (xs : List α) :
    collapseRuns xs = xs.destutter (· ≠ ·) := by
  induction xs using collapseRuns.induct with
  | case1 => rfl
  | case2 x => rfl
  | case3 x xs ih =>
    rw [collapseRuns, if_pos rfl, ih, List.destutter_cons', List.destutter_cons',
      List.destutter'_cons_neg _ (not_not.2 rfl)]
  | case4 x y xs hne ih =>
    rw [collapseRuns, if_neg hne, ih, List.destutter_cons', List.destutter_cons',
      List.destutter'_cons_pos _ hne]

/-- No name is lost where equal neighbours are collapsed to one. -/
theorem mem_destutter_ne {α : Type} [DecidableEq α] {xs : List α} {x : α} :
    x ∈ xs.destutter (· ≠ ·) ↔ x ∈ xs := by
  rw [← collapseRuns_eq_destutter]
  induction xs using collapseRuns.induct with
  | case1 => rfl
  | case2 y => rfl
  | case3 y ys ih =>
    rw [collapseRuns, if_pos rfl, ih]
    simp
  | case4 y z ys hne ih =>
    rw [collapseRuns, if_neg hne, List.mem_cons, ih, List.mem_cons (l := z :: ys)]

/-- **The selection of a setting**: everything, nothing, or the names that it lists, each run of
equal neighbours collapsed to one. -/
theorem Selection.ofSetting_some (setting : List Char) :
    Selection.ofSetting (some setting) =
      if trim setting ∈ everythingWords then .everything
      else if listedNames setting = [] then .nothing
      else .named ((listedNames setting).destutter (· ≠ ·)) := by
  have hnames : selectedNames (trim setting) = (listedNames setting).destutter (· ≠ ·) := by
    rw [← listedNames_trim, ← collapseRuns_eq_destutter]
    rfl
  simp only [Selection.ofSetting, hnames]
  refine if_congr Iff.rfl rfl ?_
  split
  · next hnil => rw [if_pos ((List.destutter_eq_nil _).1 hnil)]
  · next hne => rw [if_neg fun hnil => hne ((List.destutter_eq_nil _).2 hnil)]

/-- Words for all components hold no comma, and no blank at their ends. -/
theorem plain_of_mem_everythingWords {word : List Char} (h : word ∈ everythingWords) :
    ',' ∉ word ∧ trim word = word ∧ word ≠ [] := by
  have hall : ∀ word ∈ everythingWords, ',' ∉ word ∧ trim word = word ∧ word ≠ [] := by decide
  exact hall word h

/-- A setting is a word for all components only if it lists one. -/
theorem trim_notMem_everythingWords {setting : List Char}
    (h : ∀ name ∈ listedNames setting, name ∉ everythingWords) :
    trim setting ∉ everythingWords := by
  intro hword
  obtain ⟨hcomma, -, hne⟩ := plain_of_mem_everythingWords hword
  have hpiece : setting ∈ pieces setting := by
    rw [pieces_of_trim hcomma]
    exact List.mem_singleton_self setting
  exact h _ (mem_listedNames.2 ⟨hne, setting, hpiece, rfl⟩) hword

/-- A setting of blank pieces selects nothing. -/
theorem Selection.ofSetting_of_blank {setting : List Char}
    (h : ∀ piece ∈ pieces setting, isBlankLine piece = true) :
    Selection.ofSetting (some setting) = .nothing := by
  have hnone := listedNames_eq_nil_iff.2 h
  have hword : trim setting ∉ everythingWords :=
    trim_notMem_everythingWords (hnone ▸ List.forall_mem_nil _)
  rw [Selection.ofSetting_some, if_neg hword, if_pos hnone]

/-- A setting that is a word for all components selects everything, whatever blanks stand around
it. -/
theorem Selection.ofSetting_of_word {setting : List Char} (h : trim setting ∈ everythingWords) :
    Selection.ofSetting (some setting) = .everything := by
  rw [Selection.ofSetting_some, if_pos h]

/-- A setting that lists names, and is no word for all components, selects these names. -/
theorem Selection.ofSetting_of_names {setting : List Char} (h : listedNames setting ≠ [])
    (hword : trim setting ∉ everythingWords) :
    Selection.ofSetting (some setting) = .named ((listedNames setting).destutter (· ≠ ·)) := by
  rw [Selection.ofSetting_some, if_neg hword, if_neg h]

/-- The names of a setting, without their repetitions, can be written between commas and read
again. -/
theorem isListing_destutter {setting : List Char} (h : listedNames setting ≠ []) :
    IsListing ((listedNames setting).destutter (· ≠ ·)) where
  ne_nil := fun hnil => h ((List.destutter_eq_nil _).1 hnil)
  comma_notMem _ hname := comma_notMem_of_mem_listedNames (mem_destutter_ne.1 hname)
  trimmed _ hname := trimmed_of_mem_listedNames (mem_destutter_ne.1 hname)
  distinct := List.isChain_destutter _ _

namespace IsListing

variable {names : List (List Char)}

/-- The pieces between the commas are the names that were written between them. -/
theorem pieces_intercalate (h : IsListing names) : pieces ([','].intercalate names) = names :=
  List.splitOn_intercalate ',' h.comma_notMem h.ne_nil

/-- Names that are written between commas are just those listed. -/
theorem listedNames_intercalate (h : IsListing names) :
    listedNames ([','].intercalate names) = names := by
  have htrim : names.map trim = names :=
    (List.map_congr_left fun name hname => (h.trimmed name hname).2).trans (List.map_id names)
  rw [listedNames, h.pieces_intercalate, htrim, List.filter_eq_self]
  intro name hname
  exact decide_eq_true (h.trimmed name hname).1

/-- Trimming makes no word for all components of such a list: only the first and the last name could
lose blanks, and they have none. -/
theorem trim_intercalate_mem_iff (h : IsListing names) :
    trim ([','].intercalate names) ∈ everythingWords ↔
      [','].intercalate names ∈ everythingWords := by
  constructor
  · intro hword
    have hsingle := pieces_of_trim (plain_of_mem_everythingWords hword).1
    rw [h.pieces_intercalate] at hsingle
    have hname := List.mem_singleton_self ([','].intercalate names)
    rw [← hsingle] at hname
    rwa [(h.trimmed _ hname).2] at hword
  · intro hword
    rwa [(plain_of_mem_everythingWords hword).2.1]

/-- **Names between commas** are selected as they are, unless they are a word for all components. -/
theorem ofSetting_intercalate (h : IsListing names) :
    Selection.ofSetting (some ([','].intercalate names)) =
      if [','].intercalate names ∈ everythingWords then .everything else .named names := by
  rw [Selection.ofSetting_some, h.listedNames_intercalate, if_neg h.ne_nil,
    List.destutter_of_isChain _ _ h.distinct]
  exact if_congr h.trim_intercalate_mem_iff rfl rfl

end IsListing

/-! ## The text -/

variable {f : Filter} {names : List (List Char)}

/-- The name of a level holds no comma. -/
theorem comma_notMem_name (level : Level) : ',' ∉ level.name.toList := by
  cases level <;> decide

/-- The name of a level holds no equals sign. -/
theorem equals_notMem_name (level : Level) : '=' ∉ level.name.toList := by
  cases level <;> decide

/-- The selection of a filter is that of the setting for components alone. -/
theorem selection_ofSettings (setting : String) (verbosity : Option String) :
    (Filter.ofSettings (some setting) verbosity).selection =
      Selection.ofSetting (some setting.toList) := rfl

/-- The filter of a setting that lists names and is no word for all components. -/
theorem ofSettings_of_names {setting : String} (verbosity : Option String)
    (h : listedNames setting.toList ≠ []) (hword : trim setting.toList ∉ everythingWords) :
    Filter.ofSettings (some setting) verbosity =
      ⟨.named ((listedNames setting.toList).destutter (· ≠ ·)),
        .ofSetting (verbosity.map String.toList)⟩ := by
  rw [Filter.ofSettings, Option.map_some, Selection.ofSetting_of_names h hword]

/-- Where nothing is selected the text says that the log is off. -/
theorem directives_of_nothing (h : f.selection = .nothing) : f.directives = "off" := by
  simp only [Filter.directives, h]

/-- Where everything is selected the text is the name of the level. -/
theorem directives_of_everything (h : f.selection = .everything) : f.directives = f.level.name := by
  simp only [Filter.directives, h]

/-- **The items of the text** are the names, each with the level. -/
theorem splitOn_directives (hselection : f.selection = .named names) (h : IsListing names) :
    f.directives.toList.splitOn ',' = names.map (· ++ '=' :: f.level.name.toList) := by
  have htext : f.directives.toList =
      [','].intercalate (names.map (· ++ '=' :: f.level.name.toList)) := by
    simp only [Filter.directives, hselection]
    rw [String.toList_intercalate, List.map_map]
    congr 1
    refine List.map_congr_left fun name _ => ?_
    simp
  rw [htext]
  refine List.splitOn_intercalate ',' ?_ (by simpa using h.ne_nil)
  intro item hitem hcomma
  obtain ⟨name, hname, rfl⟩ := List.mem_map.1 hitem
  rw [List.mem_append, List.mem_cons] at hcomma
  rcases hcomma with hcomma | hcomma | hcomma
  · exact h.comma_notMem name hname hcomma
  · cases hcomma
  · exact comma_notMem_name _ hcomma

/-- The names can be told from the text if none of them holds an equals sign. -/
theorem namesIn_directives (hselection : f.selection = .named names) (h : IsListing names)
    (hequals : ∀ name ∈ names, '=' ∉ name) : namesIn f.directives.toList = names := by
  rw [namesIn, splitOn_directives hselection h, List.map_map]
  refine (List.map_congr_left fun name hname => ?_).trans (List.map_id names)
  have hname : ∀ c ∈ name, decide (c ≠ '=') = true := fun c hc =>
    decide_eq_true fun heq => hequals name hname (heq ▸ hc)
  rw [Function.comp_apply, List.takeWhile_append_of_pos hname]
  simp

/-- A text with names is not the name of a level. -/
theorem name_ne_directives (hselection : f.selection = .named names) (h : IsListing names)
    (level : Level) : level.name ≠ f.directives := by
  intro heq
  have hitems := splitOn_directives hselection h
  rw [← heq, List.splitOn_eq_singleton (comma_notMem_name level)] at hitems
  have hitem : level.name.toList ∈ names.map (· ++ '=' :: f.level.name.toList) :=
    hitems ▸ List.mem_singleton_self _
  obtain ⟨name, -, hname⟩ := List.mem_map.1 hitem
  refine equals_notMem_name level ?_
  rw [← hname]
  simp

/-- **Names written between commas make the same text again**, unless they are a word for all
components. -/
theorem directives_intercalate_iff (h : IsListing names) (verbosity : Option String) :
    (Filter.ofSettings (some (String.ofList ([','].intercalate names))) verbosity).directives =
        Filter.directives ⟨.named names, .ofSetting (verbosity.map String.toList)⟩ ↔
      [','].intercalate names ∉ everythingWords := by
  have hagain : Filter.ofSettings (some (String.ofList ([','].intercalate names))) verbosity =
      ⟨if [','].intercalate names ∈ everythingWords then .everything else .named names,
        .ofSetting (verbosity.map String.toList)⟩ := by
    rw [← h.ofSetting_intercalate, Filter.ofSettings, Option.map_some, String.toList_ofList]
  rw [hagain]
  constructor
  · intro htext hword
    rw [if_pos hword, directives_of_everything rfl] at htext
    exact name_ne_directives rfl h _ htext
  · intro hword
    rw [if_neg hword]

/-- **A text names what its setting lists.** Without a setting, or if all its pieces are blank, the
text is `off`; for a word for all components it is the level alone. Otherwise its items are the
names that the setting lists, in their order and each with the level, where of equal neighbours one
is left; none of them is empty, has blanks at an end or equals the next. If no equals sign is in the
way, the names can be read off the text, and they are just those listed; written between commas,
they make the same text again, unless they have become a word for all components. -/
theorem directives_name_what_is_listed (setting : String) (verbosity : Option String) :
    let text := (Filter.ofSettings (some setting) verbosity).directives
    let level := (Level.ofSetting (verbosity.map String.toList)).name
    (Filter.ofSettings none verbosity).directives = "off" ∧
    ((∀ piece ∈ pieces setting.toList, isBlankLine piece = true) → text = "off") ∧
    (trim setting.toList ∈ ["*", "1", "true"].map String.toList → text = level) ∧
    (¬ (∀ piece ∈ pieces setting.toList, isBlankLine piece = true) →
      trim setting.toList ∉ ["*", "1", "true"].map String.toList →
      let names := (listedNames setting.toList).destutter (· ≠ ·)
      text.toList.splitOn ',' = names.map (· ++ '=' :: level.toList) ∧
      (∀ name ∈ names, name ≠ [] ∧ trim name = name) ∧ names.IsChain (· ≠ ·) ∧
      ((∀ piece ∈ pieces setting.toList, '=' ∉ piece) →
        namesIn text.toList = names ∧
        (∀ name, name ∈ namesIn text.toList ↔
          name ≠ [] ∧ ∃ piece ∈ pieces setting.toList, trim piece = name) ∧
        let again := [','].intercalate (namesIn text.toList)
        ((Filter.ofSettings (some (String.ofList again)) verbosity).directives = text ↔
          again ∉ ["*", "1", "true"].map String.toList))) := by
  intro text level
  have hsetting := selection_ofSettings setting verbosity
  refine ⟨directives_of_nothing rfl, fun hblank => ?_, fun hword => ?_, fun hblank hword => ?_⟩
  · exact directives_of_nothing (hsetting.trans (Selection.ofSetting_of_blank hblank))
  · exact directives_of_everything (hsetting.trans (Selection.ofSetting_of_word hword))
  · intro names
    have hne : listedNames setting.toList ≠ [] := mt listedNames_eq_nil_iff.1 hblank
    have hnames : IsListing names := isListing_destutter hne
    have htext :
        text = Filter.directives ⟨.named names, .ofSetting (verbosity.map String.toList)⟩ :=
      congrArg Filter.directives (ofSettings_of_names verbosity hne hword)
    rw [htext]
    refine ⟨splitOn_directives rfl hnames, hnames.trimmed, hnames.distinct, fun hequals => ?_⟩
    have hread := namesIn_directives
      (f := ⟨.named names, .ofSetting (verbosity.map String.toList)⟩) rfl hnames
      fun name hname => equals_notMem_of_mem_listedNames hequals (mem_destutter_ne.1 hname)
    rw [hread]
    refine ⟨rfl, fun name => ?_, directives_intercalate_iff hnames verbosity⟩
    rw [← mem_listedNames]
    exact mem_destutter_ne

/-- A setting that is blank, one that is a word, one whose names are repeated, next to each other
and apart, and one whose name becomes a word when the repetition is gone. -/
theorem directives_name_what_is_listed_repeatedly :
    let setting := " repl,repl ,, script, repl"
    let text := (Filter.ofSettings (some setting) (some "3")).directives
    let names := ["repl".toList, "script".toList, "repl".toList]
    let starred := (Filter.ofSettings (some "*,*") none).directives
    (Filter.ofSettings (some " , ,") none).directives = "off" ∧
    (Filter.ofSettings (some " 1 ") (some "2")).directives = Level.debug.name ∧
    text.toList.splitOn ',' = names.map (· ++ '=' :: Level.trace.name.toList) ∧
    namesIn text.toList = names ∧
    (Filter.ofSettings (some (String.ofList ([','].intercalate (namesIn text.toList))))
      (some "3")).directives = text ∧
    [','].intercalate (namesIn starred.toList) = ['*'] ∧
    (Filter.ofSettings (some (String.ofList ([','].intercalate (namesIn starred.toList))))
      none).directives ≠ starred := by
  intro setting text names starred
  obtain ⟨-, hoff, -, -⟩ := directives_name_what_is_listed " , ," none
  obtain ⟨-, -, hword, -⟩ := directives_name_what_is_listed " 1 " (some "2")
  obtain ⟨-, -, -, hlist⟩ := directives_name_what_is_listed setting (some "3")
  obtain ⟨-, -, -, hstar⟩ := directives_name_what_is_listed "*,*" none
  have hnames : (listedNames setting.toList).destutter (· ≠ ·) = names := by decide +kernel
  obtain ⟨hitems, -, -, hread⟩ := hlist (by decide +kernel) (by decide +kernel)
  obtain ⟨hsame, -, hagain⟩ := hread (by decide +kernel)
  obtain ⟨-, -, -, hstarred⟩ := hstar (by decide +kernel) (by decide +kernel)
  obtain ⟨hone, -, hchanged⟩ := hstarred (by decide +kernel)
  have hstarNames : (listedNames "*,*".toList).destutter (· ≠ ·) = [['*']] := by decide +kernel
  rw [hnames] at hitems hsame
  rw [hstarNames] at hone
  have hjoined : [','].intercalate (namesIn starred.toList) = ['*'] := by
    rw [hone]
    rfl
  refine ⟨hoff (by decide +kernel), hword (by decide +kernel), hitems, hsame, hagain.2 ?_, hjoined,
    fun heq => hchanged.1 heq ?_⟩
  · rw [hsame]
    decide +kernel
  · rw [hjoined]
    decide

end SetCalculator.Log
