import Mathlib.Data.List.DropRight
import SetCalculator.Proofs.Log.Directives
import SetCalculator.Proofs.Text.Numeral

/-!
# The level of a filter

The level is told by the word that ends each item of the text (`GivesLevel`), and what enables
something gives one level to all of it (`givesLevel_directives`). A number that is spelled out in
the other setting (`SpellsNumber`) is read exactly if it is below 256, and then the level rises with
it up to the most detailed one. A greater number is not read at all: it counts as no number, which
gives less detail than 2 or 3 would (`verbosity_is_not_clamped_from_256`).
-/

namespace SetCalculator.Log

open Text

/-- Every item of the text ends with the level: all of the item, or what stands behind its last
equals sign. -/
def GivesLevel (text : String) (level : Level) : Prop :=
  ∀ item ∈ text.toList.splitOn ',', item.rtakeWhile (· ≠ '=') = level.name.toList

instance (text : String) (level : Level) : Decidable (GivesLevel text level) :=
  inferInstanceAs (Decidable (∀ item ∈ _, _))

/-- The setting is a number in decimal, between blanks: its digits after any number of zeros, and in
front of them at most a plus sign. -/
inductive SpellsNumber : List Char → Nat → Prop
  | intro {before word after : List Char} {n : Nat} : IsBlankRun before → IsBlankRun after →
      Denotes word n → '-' ∉ word → SpellsNumber (before ++ (word ++ after)) n

/-! ## The level in the text -/

/-- Levels are told apart by their names. -/
theorem name_injective {level level' : Level} (h : level.name.toList = level'.name.toList) :
    level = level' := by
  cases level <;> cases level' <;> first | rfl | exact absurd h (by decide)

/-- A text gives one level at most. -/
theorem GivesLevel.unique {text : String} {level level' : Level} (h : GivesLevel text level)
    (h' : GivesLevel text level') : level = level' := by
  obtain ⟨item, items, hitems⟩ := List.exists_cons_of_ne_nil (List.splitOn_ne_nil ',' text.toList)
  have hitem : item ∈ text.toList.splitOn ',' := hitems ▸ List.mem_cons_self
  exact name_injective ((h item hitem).symm.trans (h' item hitem))

/-- The name of a level alone is taken whole, since it holds no equals sign. -/
theorem rtakeWhile_name (level : Level) :
    level.name.toList.rtakeWhile (· ≠ '=') = level.name.toList := by
  rw [List.rtakeWhile_eq_self_iff]
  intro c hc
  exact decide_eq_true fun heq => equals_notMem_name level (heq ▸ hc)

/-- Behind the last equals sign of an item stands its level, whatever the name holds. -/
theorem rtakeWhile_item (name : List Char) (level : Level) :
    (name ++ '=' :: level.name.toList).rtakeWhile (· ≠ '=') = level.name.toList := by
  have hname : ∀ c ∈ level.name.toList.reverse, decide (c ≠ '=') = true := by
    intro c hc
    exact decide_eq_true fun heq => equals_notMem_name level (heq ▸ List.mem_reverse.1 hc)
  rw [List.rtakeWhile, List.reverse_append, List.reverse_cons, List.append_assoc,
    List.takeWhile_append_of_pos hname]
  simp

/-- The names of every selection can be written between commas and read again. -/
theorem Selection.isListing_of_ofSetting {setting : Option (List Char)} {names : List (List Char)}
    (h : Selection.ofSetting setting = .named names) : IsListing names := by
  cases setting with
  | none => cases h
  | some setting =>
    rw [Selection.ofSetting_some] at h
    split at h
    · cases h
    · split at h
      · cases h
      · next hne =>
        cases h
        exact isListing_destutter hne

/-- **What enables something gives its level** to everything that it enables. -/
theorem givesLevel_directives {components : Option String} {verbosity : Option String}
    (h : Selection.ofSetting (components.map String.toList) ≠ .nothing) :
    GivesLevel (Filter.ofSettings components verbosity).directives
      (Level.ofSetting (verbosity.map String.toList)) := by
  intro item hitem
  cases hselection : Selection.ofSetting (components.map String.toList) with
  | nothing => exact absurd hselection h
  | everything =>
    rw [directives_of_everything hselection, List.splitOn_eq_singleton (comma_notMem_name _),
      List.mem_singleton] at hitem
    rw [hitem]
    exact rtakeWhile_name _
  | named names =>
    have hnames := Selection.isListing_of_ofSetting hselection
    rw [splitOn_directives (f := Filter.ofSettings components verbosity) hselection hnames,
      List.mem_map] at hitem
    obtain ⟨name, -, rfl⟩ := hitem
    exact rtakeWhile_item name _

/-! ## The levels of numbers -/

/-- Zero selects the least detailed level, and from there on the detail rises by steps of one, up to
the most detailed level. -/
theorem rank_ofVerbosity (v : Nat) :
    (Level.ofVerbosity v).rank = if v = 0 then 0 else min 4 (v + 1) := by
  match v with
  | 0 => rfl
  | 1 => rfl
  | 2 => rfl
  | v + 3 => simp [Level.ofVerbosity, Level.rank]

/-- A greater number selects no less detail. -/
theorem rank_ofVerbosity_le {v w : Nat} (h : v ≤ w) :
    (Level.ofVerbosity v).rank ≤ (Level.ofVerbosity w).rank := by
  rw [rank_ofVerbosity, rank_ofVerbosity]
  split
  · exact Nat.zero_le _
  · split
    · omega
    · omega

/-- From 3 on, a number selects the most detailed level. -/
theorem ofVerbosity_of_ge {n : Nat} (h : 3 ≤ n) : Level.ofVerbosity n = .trace := by
  obtain ⟨k, rfl⟩ := Nat.exists_eq_add_of_le' h
  rfl

/-- Clamping a number to 3 does not change its level. -/
theorem ofVerbosity_min (n : Nat) : Level.ofVerbosity (min 3 n) = Level.ofVerbosity n := by
  rcases Nat.le_total n 3 with h | h
  · rw [Nat.min_eq_right h]
  · rw [Nat.min_eq_left h, ofVerbosity_of_ge h, ofVerbosity_of_ge (Nat.le_refl 3)]

/-! ## The number in the setting -/

/-- Digits are folded to their number, behind those that were read before. -/
theorem foldlM_digits {ds : List Char} (h : ∀ c ∈ ds, c.isDigit = true) (n : Nat) :
    ds.foldlM (fun n c => (digitValue? c).map (n * 10 + ·)) n =
      some (Nat.ofDigitChars 10 ds n) := by
  induction ds generalizing n with
  | nil => rfl
  | cons c ds ih =>
    have hds : ∀ c ∈ ds, c.isDigit = true := fun d hd => h d (List.mem_cons_of_mem _ hd)
    rw [List.foldlM_cons, digitValue?_of_isDigit (h c List.mem_cons_self), Nat.ofDigitChars_cons,
      Nat.mul_comm 10]
    exact ih hds _

/-- Digits are read as their number. -/
theorem number?_of_digits {ds : List Char} (hne : ds ≠ []) (h : ∀ c ∈ ds, c.isDigit = true) :
    number? ds = some (Nat.ofDigitChars 10 ds 0) := by
  rw [number?, if_neg hne, foldlM_digits h]

/-- A numeral without a minus sign is read as its number, after a plus sign as well. -/
theorem number?_of_denotes {word : List Char} {n : Nat} (h : Denotes word n) (hminus : '-' ∉ word) :
    number? (if word.head? = some '+' then word.tail else word) = some n := by
  generalize hz : (n : Int) = z at h
  cases h with
  | unsigned hne hds =>
    have hhead : word.head? ≠ some '+' := by
      intro hhead
      have hplus := hds '+' (List.mem_of_head? hhead)
      cases hplus
    rw [if_neg hhead, number?_of_digits hne hds, Int.natCast_inj.1 hz]
  | plus hne hds =>
    rw [List.head?_cons, if_pos rfl, List.tail_cons, number?_of_digits hne hds,
      Int.natCast_inj.1 hz]
  | minus => exact absurd List.mem_cons_self hminus

/-- **A number is read if it is below 256**, and otherwise not at all. -/
theorem verbosity?_of_spellsNumber {setting : List Char} {n : Nat} (h : SpellsNumber setting n) :
    verbosity? setting = if n < 256 then some n else none := by
  cases h with
  | @intro before word after _ hbefore hafter hword hminus =>
    have htrim : trim (before ++ (word ++ after)) = word := by
      rw [trim_pad hbefore hafter,
        trim_of_no_blank (not_isBlank_of_isWord (isWord_of_denotes hword))]
    have hnumber := number?_of_denotes hword hminus
    simp only [verbosity?, htrim, hnumber, Option.filter_some, decide_eq_true_eq]

/-- **The level that a number selects** rises with the number below 256, and is that of 1 from
there on. -/
theorem Level.ofSetting_of_spellsNumber {setting : List Char} {n : Nat}
    (h : SpellsNumber setting n) :
    Level.ofSetting (some setting) = if n < 256 then Level.ofVerbosity n else .info := by
  rw [Level.ofSetting, Option.bind_some, verbosity?_of_spellsNumber h]
  split
  · rw [Option.getD_some, ofVerbosity_min]
  · rfl

/-! ## Verbosities compared -/

/-- The decimal numeral of a number spells it. -/
theorem spellsNumber_toString (n : Nat) : SpellsNumber (toString n).toList n := by
  have hminus : '-' ∉ (toString n).toList := by
    intro hminus
    cases isDigit_of_mem_toString hminus
  have hspells := SpellsNumber.intro isBlankRun_nil isBlankRun_nil (denotes_toString n) hminus
  rwa [List.append_nil, List.nil_append] at hspells

/-- A setting enables something only if it selects something. -/
theorem selection_ne_nothing {components verbosity : Option String}
    (h : (Filter.ofSettings components verbosity).directives ≠ "off") :
    Selection.ofSetting (components.map String.toList) ≠ .nothing :=
  fun hnothing => h (directives_of_nothing hnothing)

/-- **More verbosity gives more detail, below 256.** Take a setting that enables something, and two
numbers, each spelled in any way. If the greater one is below 256, the texts give levels of which
its level is at least as detailed, and the most detailed one from 3 on. A number from 256 on is not
read, so the text gives the level that it gives without a number. -/
theorem detail_rises_below_256 {components verbosity : Option String}
    (henabled : (Filter.ofSettings components verbosity).directives ≠ "off") :
    (∀ (s t : String) (m n : Nat), SpellsNumber s.toList m → SpellsNumber t.toList n → m ≤ n →
      n < 256 → ∃ level level',
        GivesLevel (Filter.ofSettings components (some s)).directives level ∧
        GivesLevel (Filter.ofSettings components (some t)).directives level' ∧
        level.rank ≤ level'.rank ∧ (3 ≤ n → level' = .trace)) ∧
    ∀ (t : String) (n : Nat), SpellsNumber t.toList n → 256 ≤ n →
      GivesLevel (Filter.ofSettings components (some t)).directives .info := by
  have hgives : ∀ {t : String} {n : Nat}, SpellsNumber t.toList n →
      GivesLevel (Filter.ofSettings components (some t)).directives
        (if n < 256 then Level.ofVerbosity n else .info) := by
    intro t n ht
    rw [← Level.ofSetting_of_spellsNumber ht]
    exact givesLevel_directives (selection_ne_nothing henabled)
  refine ⟨fun s t m n hs ht hmn hn => ?_, fun t n ht hn => ?_⟩
  · have hm : m < 256 := Nat.lt_of_le_of_lt hmn hn
    refine ⟨Level.ofVerbosity m, Level.ofVerbosity n, ?_, ?_, rank_ofVerbosity_le hmn,
      ofVerbosity_of_ge⟩
    · simpa only [if_pos hm] using hgives hs
    · simpa only [if_pos hn] using hgives ht
  · simpa only [if_neg (Nat.not_lt.2 hn)] using hgives ht

/-- Zeros, a sign and a wide blank around two numbers, the last that is read, and the first that is
not. -/
theorem detail_rises_below_256_for_padded_numbers :
    let components := some " session,,repl"
    (Filter.ofSettings components none).directives ≠ "off" ∧
    SpellsNumber "\u3000+002 ".toList 2 ∧ SpellsNumber "255".toList 255 ∧
    (∃ level level',
      GivesLevel (Filter.ofSettings components (some "\u3000+002 ")).directives level ∧
      GivesLevel (Filter.ofSettings components (some "255")).directives level' ∧
      level.rank ≤ level'.rank ∧ level' = .trace) ∧
    SpellsNumber "256".toList 256 ∧
    GivesLevel (Filter.ofSettings components (some "256")).directives .info := by
  intro components
  have henabled : (Filter.ofSettings components none).directives ≠ "off" := by decide +kernel
  have hpadded : SpellsNumber "\u3000+002 ".toList 2 :=
    .intro (isBlankRun_singleton (c := '\u3000') (by decide))
      (isBlankRun_singleton (c := ' ') (by decide))
      (@Denotes.plus "002".toList (by decide) (List.all_eq_true.1 (by decide))) (by decide)
  obtain ⟨hrises, hfalls⟩ := detail_rises_below_256 henabled
  obtain ⟨level, level', hs, ht, hrank, htrace⟩ :=
    hrises _ _ 2 255 hpadded (spellsNumber_toString 255) (by decide) (by decide)
  exact ⟨henabled, hpadded, spellsNumber_toString 255,
    ⟨level, level', hs, ht, hrank, htrace (by decide)⟩, spellsNumber_toString 256,
    hfalls _ 256 (spellsNumber_toString 256) (Nat.le_refl 256)⟩

/-- **A number from 256 on is not taken for the greatest verbosity.** The level of 256 is less
detailed than that of 2, and not the most detailed one. -/
theorem verbosity_is_not_clamped_from_256 :
    (¬ ∀ components verbosity : Option String,
      (Filter.ofSettings components verbosity).directives ≠ "off" →
      ∀ (s t : String) (m n : Nat), SpellsNumber s.toList m → SpellsNumber t.toList n → m ≤ n →
        ∃ level level', GivesLevel (Filter.ofSettings components (some s)).directives level ∧
          GivesLevel (Filter.ofSettings components (some t)).directives level' ∧
          level.rank ≤ level'.rank) ∧
    ¬ ∀ components verbosity : Option String,
      (Filter.ofSettings components verbosity).directives ≠ "off" →
      ∀ (t : String) (n : Nat), SpellsNumber t.toList n → 3 ≤ n →
        GivesLevel (Filter.ofSettings components (some t)).directives .trace := by
  have henabled : (Filter.ofSettings (some "repl") none).directives ≠ "off" := by decide +kernel
  have hlow : GivesLevel (Filter.ofSettings (some "repl") (some "2")).directives .debug := by
    decide +kernel
  have hhigh : GivesLevel (Filter.ofSettings (some "repl") (some "256")).directives .info := by
    decide +kernel
  constructor
  · intro hrises
    obtain ⟨level, level', hs, ht, hrank⟩ := hrises _ _ henabled "2" "256" 2 256
      (spellsNumber_toString 2) (spellsNumber_toString 256) (by decide)
    rw [hs.unique hlow, ht.unique hhigh] at hrank
    exact absurd hrank (by decide)
  · intro htrace
    have htrace := htrace _ _ henabled "256" 256 (spellsNumber_toString 256) (by decide)
    cases htrace.unique hhigh

end SetCalculator.Log
