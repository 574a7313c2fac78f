import SetCalculator.Proofs.Log.Verbosity

/-!
# What the settings of the log select

A filter selects a component if one of its names begins the component's. Between the components that
are offered that is an exact choice: no name of one begins the name of another
(`isPrefixOf_name_iff`). So the setting that lists some of them selects just these
(`selects_listing`), and a word for all of them selects every component (`selects_everything`). The
level is a matter of the other setting alone, so more verbosity shows more of what is selected
(`shows_of_le`).
-/

namespace SetCalculator.Log

open Text

/-- The setting that lists these components. -/
def listing (cs : List Component) : String := String.intercalate "," (cs.map Component.name)

/-- The settings that the user is told of: none, one that is empty, a word for all components, or a
list of components. -/
inductive Offered : Option String → Prop
  | unset : Offered none
  | empty : Offered (some "")
  | everything {word : String} : word ∈ ["*", "1", "true"] → Offered (some word)
  | listed {cs : List Component} : (∀ c ∈ cs, c ∈ Component.all) → Offered (some (listing cs))

/-! ## Lists of names -/

/-- A character of texts between commas is a comma or in one of the texts. -/
theorem mem_intercalate {texts : List (List Char)} {c : Char} (h : c ∈ [','].intercalate texts) :
    c = ',' ∨ ∃ text ∈ texts, c ∈ text := by
  induction texts with
  | nil => simp [List.intercalate] at h
  | cons text texts ih =>
    cases texts with
    | nil => exact .inr ⟨text, by simp, by simpa [List.intercalate] using h⟩
    | cons other texts =>
      rw [List.intercalate_cons_cons, List.mem_append, List.mem_append, List.mem_singleton] at h
      rcases h with (h | h) | h
      · exact .inr ⟨text, by simp, h⟩
      · exact .inl h
      · exact (ih h).imp_right List.exists_mem_cons_of_exists

/-! ## Names of components -/

/-- A name holds no comma and no blank. -/
theorem name_chars (c : Component) : ∀ x ∈ c.name.toList, x ≠ ',' ∧ isBlank x = false := by
  have hall : (c.name.toList.all fun x => x != ',' && !isBlank x) = true := by
    cases c <;> decide +kernel
  intro x hx
  simpa using List.all_eq_true.1 hall x hx

/-- No component has an empty name. -/
theorem name_ne_nil (c : Component) : c.name.toList ≠ [] := by
  cases c <;> decide +kernel

/-- No name is a word for all components. -/
theorem name_notMem_everythingWords (c : Component) : c.name.toList ∉ everythingWords := by
  cases c <;> decide +kernel

/-- **No name of a component that is offered begins the name of another one.** -/
theorem isPrefixOf_name_iff {c d : Component} (h : c ∈ Component.all) :
    c.name.toList.isPrefixOf d.name.toList = true ↔ d = c := by
  have hall : ∀ c ∈ Component.all, ∀ d ∈ Component.editor :: Component.all,
      (c.name.toList.isPrefixOf d.name.toList = true ↔ d = c) := by
    decide +kernel
  refine hall c h d ?_
  cases d <;> decide

/-! ## Lists of components -/

/-- A listing is the names between commas, without blanks. -/
theorem toList_listing (cs : List Component) :
    (listing cs).toList = [','].intercalate (cs.map fun c => c.name.toList) := by
  rw [listing, String.toList_intercalate, List.map_map]
  rfl

/-- The names stand between the commas. -/
theorem splitOn_listing {cs : List Component} (hne : cs ≠ []) :
    (listing cs).toList.splitOn ',' = cs.map fun c => c.name.toList := by
  rw [toList_listing]
  refine List.splitOn_intercalate ',' ?_ (by simpa using hne)
  intro text htext hcomma
  obtain ⟨c, -, rfl⟩ := List.mem_map.1 htext
  exact (name_chars c ',' hcomma).1 rfl

/-- A listing of components lists their names. -/
theorem listedNames_listing {cs : List Component} (hne : cs ≠ []) :
    listedNames (listing cs).toList = cs.map fun c => c.name.toList := by
  have htrim : (trim ∘ fun c : Component => c.name.toList) = fun c => c.name.toList :=
    funext fun c => trim_of_no_blank fun x hx => (name_chars c x hx).2
  rw [listedNames, pieces, splitOn_listing hne, List.map_map, htrim, List.filter_eq_self]
  intro name hname
  obtain ⟨c, -, rfl⟩ := List.mem_map.1 hname
  exact decide_eq_true (name_ne_nil c)

/-- A list of components selects the names of these components. -/
theorem exists_ofSetting_listing {cs : List Component} (hne : cs ≠ []) :
    ∃ names, Selection.ofSetting (some (listing cs).toList) = .named names ∧
      ∀ name, name ∈ names ↔ ∃ c ∈ cs, c.name.toList = name := by
  have hnames := listedNames_listing hne
  have hword : ∀ name ∈ listedNames (listing cs).toList, name ∉ everythingWords := by
    rw [hnames, List.forall_mem_map]
    exact fun c _ => name_notMem_everythingWords c
  refine ⟨_, Selection.ofSetting_of_names ?_ (trim_notMem_everythingWords hword), fun name => ?_⟩
  · simpa [hnames] using hne
  · rw [mem_destutter_ne, hnames, List.mem_map]

/-- **A list selects just the components in it.** -/
theorem selects_listing {cs : List Component} (h : ∀ c ∈ cs, c ∈ Component.all)
    (verbosity : Option String) (d : Component) :
    (Filter.ofSettings (some (listing cs)) verbosity).selects d = true ↔ d ∈ cs := by
  rw [Filter.selects, Filter.ofSettings, Option.map_some]
  by_cases hne : cs = []
  · subst hne
    simp [listing, Selection.ofSetting, selectedNames, everythingWords, collapseRuns]
  · obtain ⟨names, hnames, hmem⟩ := exists_ofSetting_listing hne
    simp only [hnames, List.any_eq_true, hmem]
    refine ⟨?_, fun hd => ⟨_, ⟨d, hd, rfl⟩, (isPrefixOf_name_iff (h d hd)).2 rfl⟩⟩
    rintro ⟨name, ⟨c, hc, rfl⟩, hprefix⟩
    rwa [(isPrefixOf_name_iff (h c hc)).1 hprefix]

/-- **A word for all components** selects every one. -/
theorem selects_everything {word : String} (h : word ∈ ["*", "1", "true"])
    (verbosity : Option String) (d : Component) :
    (Filter.ofSettings (some word) verbosity).selects d = true := by
  have hall : ∀ word ∈ ["*", "1", "true"],
      Selection.ofSetting (some word.toList) = .everything := by
    decide +kernel
  simp only [Filter.selects, Filter.ofSettings, Option.map_some, hall word h]

/-! ## Levels -/

/-- The verbosities that a user is told of are read as they are written. -/
theorem ofSetting_toString {v : Nat} (h : v ≤ 3) :
    Level.ofSetting (some (toString v).toList) = Level.ofVerbosity v := by
  rw [Level.ofSetting_of_spellsNumber (spellsNumber_toString v), if_pos (by omega)]

/-- The level has no say in the components. -/
theorem selects_ofSettings (components verbosity verbosity' : Option String) (c : Component) :
    (Filter.ofSettings components verbosity).selects c =
      (Filter.ofSettings components verbosity').selects c := by
  simp only [Filter.selects, Filter.ofSettings]

/-- **What is shown with less verbosity is shown with more.** -/
theorem shows_of_le {components : Option String} {v w : Nat} (hvw : v ≤ w) (hw : w ≤ 3) {r : Record}
    (h : (Filter.ofSettings components (some (toString v))).shows r = true) :
    (Filter.ofSettings components (some (toString w))).shows r = true := by
  have hlevel : ∀ {u : Nat}, u ≤ 3 →
      (Filter.ofSettings components (some (toString u))).level = Level.ofVerbosity u := by
    intro u hu
    simp only [Filter.ofSettings, Option.map_some, ofSetting_toString hu]
  have hselects := selects_ofSettings components (some (toString v)) (some (toString w)) r.component
  have hrank := rank_ofVerbosity_le hvw
  rw [Filter.shows, Bool.and_eq_true, decide_eq_true_eq, hlevel (Nat.le_trans hvw hw),
    hselects] at h
  rw [Filter.shows, Bool.and_eq_true, decide_eq_true_eq, hlevel hw]
  exact ⟨h.1, Nat.le_trans h.2 hrank⟩

/-- A list of components shows of them what all components together show. -/
theorem shows_listing {cs : List Component} (h : ∀ c ∈ cs, c ∈ Component.all) {word : String}
    (hword : word ∈ ["*", "1", "true"]) (verbosity : Option String) (r : Record) :
    (Filter.ofSettings (some (listing cs)) verbosity).shows r =
      ((Filter.ofSettings (some word) verbosity).shows r && decide (r.component ∈ cs)) := by
  have hlevel : (Filter.ofSettings (some (listing cs)) verbosity).level =
      (Filter.ofSettings (some word) verbosity).level := by
    simp only [Filter.ofSettings]
  rw [Bool.eq_iff_iff, Filter.shows, Filter.shows, hlevel, Bool.and_eq_true, Bool.and_eq_true,
    selects_listing h, selects_everything hword, Bool.true_and, decide_eq_true_eq]
  rw [decide_eq_true_eq]
  exact and_comm

/-! ## The text of a filter -/

/-- The names that a setting can select are those of components. -/
theorem Offered.exists_component {components : Option String} (h : Offered components)
    {names : List (List Char)}
    (hnames : Selection.ofSetting (components.map String.toList) = .named names) :
    ∀ name ∈ names, ∃ c : Component, c.name.toList = name := by
  cases h with
  | unset => cases hnames
  | empty =>
    have hnothing : Selection.ofSetting (some "".toList) = .nothing := by decide +kernel
    cases hnothing.symm.trans hnames
  | everything hword =>
    have hall : ∀ word ∈ ["*", "1", "true"],
        Selection.ofSetting (some word.toList) = .everything := by
      decide +kernel
    cases (hall _ hword).symm.trans hnames
  | @listed cs =>
    intro name hname
    by_cases hne : cs = []
    · subst hne
      have hnothing : Selection.ofSetting (some (listing []).toList) = .nothing := by decide +kernel
      cases hnothing.symm.trans hnames
    · obtain ⟨listed, hlisted, hmem⟩ := exists_ofSetting_listing hne
      cases hlisted.symm.trans hnames
      obtain ⟨c, -, hc⟩ := (hmem name).1 hname
      exact ⟨c, hc⟩

/-- **What the opening record quotes is on one line.** -/
theorem Offered.lineFeed_notMem_directives {components : Option String} (h : Offered components)
    (verbosity : Option String) :
    '\n' ∉ (Filter.ofSettings components verbosity).directives.toList := by
  have hlevel : ∀ level : Level, '\n' ∉ level.name.toList := by
    intro level
    cases level <;> decide
  rw [Filter.directives]
  split
  · decide
  · exact hlevel _
  · next names hnames =>
    rw [String.toList_intercalate]
    intro hfeed
    rcases mem_intercalate hfeed with hcomma | ⟨text, htext, hfeed⟩
    · cases hcomma
    · simp only [List.map_map, List.mem_map] at htext
      obtain ⟨name, hname, rfl⟩ := htext
      obtain ⟨c, rfl⟩ := h.exists_component hnames name hname
      simp only [Function.comp_apply, String.toList_append, String.toList_ofList,
        List.mem_append] at hfeed
      rcases hfeed with (hfeed | hfeed) | hfeed
      · cases (by decide : isBlank '\n' = true).symm.trans (name_chars c '\n' hfeed).2
      · cases List.mem_singleton.1 hfeed
      · exact hlevel _ hfeed

end SetCalculator.Log
