import IssuePlanner.Proofs.Text.Order
import IssuePlanner.Proofs.Text.Pieces
import IssuePlanner.Snapshot.Rules

/-! What the rules of a repository select. A path is selected exactly if it is listed and chosen by the texts of
the rule files, and the selected paths come once and in order (`select_selects`). -/

namespace IssuePlanner.Snapshot

/-- A rule of a text: one of its lines, trimmed, that is neither empty nor a comment. -/
def RuleLine (text l : String) : Prop :=
  (∃ line ∈ Text.pieces '\n' text, l = Text.trim line) ∧ l ≠ "" ∧ Text.begins l "#" = false

/-- A rule without an exclamation mark fits a path. -/
def PlainFits (text path : String) : Prop :=
  ∃ l, RuleLine text l ∧ Text.begins l "!" = false ∧ Path.fits path l = true

/-- A rule with an exclamation mark fits a path, the mark taken off. -/
def MarkedFits (text path : String) : Prop := ∃ p, RuleLine text ("!" ++ p) ∧ Path.fits path p = true

/-- A path may be shown, given the texts of the context file and the ignore file if they are there. -/
def Chosen (context ignore : Option String) (path : String) : Prop :=
  (∀ p ∈ alwaysIgnoredPatterns, Path.fits path p = false) ∧
    match context with
    | some text => PlainFits text path ∧ ¬ MarkedFits text path
    | none => MarkedFits (ignore.getD "") path ∨ ¬ PlainFits (ignore.getD "") path

/-- The paths are sorted; without a context file those that a marked rule of the ignore file fits come first. -/
def InOrder (context ignore : Option String) (paths : List String) : Prop :=
  match context with
  | some _ => paths.Pairwise (· < ·)
  | none => ∃ first rest, paths = first ++ rest ∧ first.Pairwise (· < ·) ∧ rest.Pairwise (· < ·) ∧
      (∀ f ∈ first, MarkedFits (ignore.getD "") f) ∧ ∀ f ∈ rest, ¬ MarkedFits (ignore.getD "") f

/-- The paths are those that are listed and chosen, each once and in order. -/
structure Selects (context ignore : Option String) (listed paths : List String) : Prop where
  mem_iff : ∀ f, f ∈ paths ↔ f ≠ "" ∧ f ∈ listed ∧ Chosen context ignore f
  nodup : paths.Nodup
  order : InOrder context ignore paths

/-! ### Rule files -/

theorem startsWith_singleton {c : Char} {cs : List Char} :
    Text.startsWith cs [c] = false ↔ cs.head? ≠ some c := by
  cases cs with
  | nil => simp [Text.startsWith]
  | cons a cs =>
    simp only [Text.startsWith, List.isPrefixOf, Bool.and_true, beq_eq_false_iff_ne, List.head?_cons, ne_eq,
      Option.some.injEq]
    exact ne_comm

theorem begins_hash {cs : List Char} : Text.begins (String.ofList cs) "#" = false ↔ cs.head? ≠ some '#' := by
  rw [Text.begins, String.toList_ofList]
  exact startsWith_singleton

/-- The lines of a rule file are the same whether or not the file is trimmed first. -/
theorem ruleLines_eq (text : String) :
    ruleLines text = ((((Text.splitOn '\n' text.toList).map Text.strip).filter (· ≠ [])).filter
      (·.head? ≠ some '#')).map String.ofList := by
  rw [ruleLines, ← Text.trimmedLines_strip, List.filter_filter]
  refine congrArg _ (List.filter_congr fun l _ => ?_)
  cases l <;> simp

theorem mem_ruleLines {text l : String} : l ∈ ruleLines text ↔ RuleLine text l := by
  simp only [ruleLines_eq, List.mem_map, List.mem_filter, decide_eq_true_eq, RuleLine, Text.pieces]
  constructor
  · rintro ⟨cs, ⟨⟨⟨p, hp, rfl⟩, hne⟩, hhash⟩, rfl⟩
    refine ⟨⟨_, ⟨p, hp, rfl⟩, by rw [Text.trim, String.toList_ofList]⟩, ?_, begins_hash.2 hhash⟩
    intro hempty
    exact hne (by simpa using congrArg String.toList hempty)
  · rintro ⟨⟨_, ⟨p, hp, rfl⟩, rfl⟩, hne, hhash⟩
    rw [Text.trim, String.toList_ofList] at hne hhash ⊢
    refine ⟨Text.strip p, ⟨⟨⟨p, hp, rfl⟩, ?_⟩, begins_hash.1 hhash⟩, rfl⟩
    rintro hnil
    exact hne (by rw [hnil])

theorem marked?_eq_some {l p : String} : marked? l = some p ↔ l = "!" ++ p := by
  constructor
  · intro h
    unfold marked? at h
    split at h
    · next rest hl =>
      cases h
      rw [← String.toList_inj, hl]
      simp
    · cases h
  · rintro rfl
    rw [marked?, String.toList_append]
    exact congrArg some String.ofList_toList

theorem marked?_eq_none {l : String} : marked? l = none ↔ Text.begins l "!" = false := by
  rw [Text.begins, show "!".toList = ['!'] from rfl, startsWith_singleton, marked?]
  split
  · next h => simp [h]
  · next h =>
    refine iff_of_true rfl fun hhead => ?_
    cases hl : l.toList with
    | nil =>
      rw [hl] at hhead
      cases hhead
    | cons c cs =>
      rw [hl] at hhead
      cases hhead
      exact h cs hl

theorem marked?_eq_none_iff_head? {l : String} : marked? l = none ↔ l.toList.head? ≠ some '!' := by
  rw [marked?_eq_none, Text.begins]
  exact startsWith_singleton

theorem fitsAny_plain {text path : String} :
    fitsAny path (RuleFile.ofLines (ruleLines text)).plain = true ↔ PlainFits text path := by
  simp only [fitsAny, RuleFile.ofLines, List.any_eq_true, List.mem_filter, Option.isNone_iff_eq_none,
    marked?_eq_none, mem_ruleLines, PlainFits, and_assoc]

theorem fitsAny_marked {text path : String} :
    fitsAny path (RuleFile.ofLines (ruleLines text)).marked = true ↔ MarkedFits text path := by
  simp only [fitsAny, RuleFile.ofLines, List.any_eq_true, List.mem_filterMap, marked?_eq_some, mem_ruleLines,
    MarkedFits]
  constructor
  · rintro ⟨p, ⟨l, hl, rfl⟩, hfits⟩
    exact ⟨p, hl, hfits⟩
  · rintro ⟨p, hl, hfits⟩
    exact ⟨p, ⟨_, hl, rfl⟩, hfits⟩

/-! ### Categories -/

theorem isAlwaysIgnored_eq_false {path : String} :
    isAlwaysIgnored path = false ↔ ∀ p ∈ alwaysIgnoredPatterns, Path.fits path p = false := by
  simp only [isAlwaysIgnored, List.any_eq_false, Bool.not_eq_true]

theorem categorize_eq_contextIncluded {r : Rules} {path : String} :
    r.categorize path = .contextIncluded ↔ isAlwaysIgnored path = false ∧
      fitsAny path r.contextFile.plain = true ∧ fitsAny path r.contextFile.marked = false := by
  unfold Rules.categorize
  dsimp only
  split_ifs <;> simp_all

theorem categorize_eq_ignoreIncluded {r : Rules} (h : r.context = none) {path : String} :
    r.categorize path = .ignoreIncluded ↔ isAlwaysIgnored path = false ∧
      fitsAny path r.ignore.marked = true := by
  unfold Rules.categorize Rules.contextFile
  rw [h]
  dsimp only
  split_ifs <;> simp_all [fitsAny]

theorem categorize_eq_other {r : Rules} (h : r.context = none) {path : String} :
    r.categorize path = .other ↔ isAlwaysIgnored path = false ∧
      fitsAny path r.ignore.marked = false ∧ fitsAny path r.ignore.plain = false := by
  unfold Rules.categorize Rules.contextFile
  rw [h]
  dsimp only
  split_ifs <;> simp_all [fitsAny]

theorem of_ofListing (r : Rules) (listed : List String) (c : Category) :
    (Sorted.ofListing r listed).of c =
      (Text.sortedSet (listed.filter (· ≠ ""))).filter fun p => r.categorize p = c := by
  simp only [Sorted.of, Sorted.ofListing, List.filter_map, List.map_map]
  exact List.map_id _

theorem mem_of_ofListing {r : Rules} {listed : List String} {c : Category} {f : String} :
    f ∈ (Sorted.ofListing r listed).of c ↔ f ≠ "" ∧ f ∈ listed ∧ r.categorize f = c := by
  rw [of_ofListing, List.mem_filter, Text.mem_sortedSet, List.mem_filter]
  simp only [decide_eq_true_eq]
  tauto

theorem pairwise_of_ofListing (r : Rules) (listed : List String) (c : Category) :
    ((Sorted.ofListing r listed).of c).Pairwise (· < ·) := by
  rw [of_ofListing]
  exact (Text.sortedSet_pairwise _).filter _

/-- The rules in the texts of a context file and an ignore file. -/
def Rules.ofTexts (context ignore : Option String) : Rules :=
  ⟨context.map fun text => .ofLines (ruleLines text), .ofLines (ruleLines (ignore.getD ""))⟩

theorem select_selects (context ignore : Option String) (listed : List String) :
    Selects context ignore listed ((Rules.ofTexts context ignore).select listed) := by
  cases context with
  | some text =>
    have hpaths : (Rules.ofTexts (some text) ignore).select listed =
        (Sorted.ofListing (Rules.ofTexts (some text) ignore) listed).of .contextIncluded := rfl
    have hsorted := pairwise_of_ofListing (Rules.ofTexts (some text) ignore) listed .contextIncluded
    rw [hpaths]
    refine ⟨fun f => ?_, hsorted.imp ne_of_lt, hsorted⟩
    rw [mem_of_ofListing, categorize_eq_contextIncluded, isAlwaysIgnored_eq_false]
    have hplain : fitsAny f (Rules.ofTexts (some text) ignore).contextFile.plain = true ↔ PlainFits text f :=
      fitsAny_plain
    have hmarked : fitsAny f (Rules.ofTexts (some text) ignore).contextFile.marked = false ↔
        ¬ MarkedFits text f := by
      rw [← Bool.not_eq_true]
      exact fitsAny_marked.not
    rw [hplain, hmarked]
    rfl
  | none =>
    let rules := Rules.ofTexts none ignore
    have hmarked (f : String) : rules.categorize f = .ignoreIncluded ↔
        (∀ p ∈ alwaysIgnoredPatterns, Path.fits f p = false) ∧ MarkedFits (ignore.getD "") f := by
      rw [categorize_eq_ignoreIncluded rfl, isAlwaysIgnored_eq_false]
      exact and_congr_right fun _ => fitsAny_marked
    have hrest (f : String) : rules.categorize f = .other ↔
        (∀ p ∈ alwaysIgnoredPatterns, Path.fits f p = false) ∧ ¬ MarkedFits (ignore.getD "") f ∧
          ¬ PlainFits (ignore.getD "") f := by
      rw [categorize_eq_other rfl, isAlwaysIgnored_eq_false, ← Bool.not_eq_true, ← Bool.not_eq_true]
      exact and_congr_right fun _ => and_congr fitsAny_marked.not fitsAny_plain.not
    have hpaths : rules.select listed = (Sorted.ofListing rules listed).of .ignoreIncluded ++
        (Sorted.ofListing rules listed).of .other := rfl
    have hfirst := pairwise_of_ofListing rules listed .ignoreIncluded
    have hlast := pairwise_of_ofListing rules listed .other
    refine ⟨fun f => ?_, ?_, _, _, hpaths, hfirst, hlast, fun f hf => ?_, fun f hf => ?_⟩
    · rw [hpaths, List.mem_append, mem_of_ofListing, mem_of_ofListing, hmarked, hrest]
      unfold Chosen
      tauto
    · rw [hpaths]
      refine List.nodup_append.2 ⟨hfirst.imp ne_of_lt, hlast.imp ne_of_lt, fun f hf g hg hfg => ?_⟩
      rw [mem_of_ofListing] at hf hg
      rw [hfg, hg.2.2] at hf
      cases hf.2.2
    · exact ((hmarked f).1 (mem_of_ofListing.1 hf).2.2).2
    · exact ((hrest f).1 (mem_of_ofListing.1 hf).2.2).2.1

end IssuePlanner.Snapshot
