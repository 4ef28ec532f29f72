import IssuePlanner.Outline.Script
import IssuePlanner.Proofs.Text.NormalForm
import IssuePlanner.Proofs.Text.Words

/-! The parameters of a signature. Between its parentheses a signature lists the declared parameters in order, except
those that are positional only (`lists_paramTexts`). A list of all of them would be another text: it would be longer, or
the one parameter that it has more would be a star (`ne_of_lists`). -/

namespace IssuePlanner.Outline.Script

open Text (IsWord)

/-! ### Declared parameters -/

inductive Passing where
  | positionalOnly | regular | rest | keywordOnly | keywords
  deriving DecidableEq

def Passing.mark : Passing → String
  | .rest => "*"
  | .keywords => "**"
  | _ => ""

/-- The parameters in the order of their declaration. -/
def Params.declared (ps : Params Expr) : List (Passing × Param Expr) :=
  ps.positionalOnly.map (Passing.positionalOnly, ·) ++ (ps.regular.map (Passing.regular, ·) ++
    (ps.rest.toList.map (Passing.rest, ·) ++ (ps.keywordOnly.map (Passing.keywordOnly, ·) ++
      ps.keywords.toList.map (Passing.keywords, ·))))

def Params.Named (ps : Params Expr) : Prop := ∀ d ∈ ps.declared, d.2.name ≠ "" ∧ IsWord d.2.name.toList

/-- A parameter as it is written: its stars, its name, and its hint, if that can be written. -/
def entryText (i : Interpreter) (d : Passing × Param Expr) : String :=
  d.1.mark ++ d.2.name ++ ((d.2.hint.bind i.text?).map (": " ++ ·)).getD ""

/-- Items that show parameters, each once and in order, with separators anywhere. -/
inductive Lists (i : Interpreter) : List String → List (Passing × Param Expr) → Prop
  | nil : Lists i [] []
  | entry {items ds} (d : Passing × Param Expr) (h : Lists i items ds) : Lists i (entryText i d :: items) (d :: ds)
  | separator {items ds mark} (hmark : mark = "*" ∨ mark = "/") (h : Lists i items ds) : Lists i (mark :: items) ds

def signatureText (i : Interpreter) (isAsync : Bool) (name inside : String) (result : Option Expr) : String :=
  (if isAsync then "async def " else "def ") ++ name ++ "(" ++ inside ++ ")"
    ++ ((result.bind i.text?).map (" -> " ++ ·)).getD ""

variable (i : Interpreter)

theorem signatureText_inj {isAsync : Bool} {name inside inside' : String} {result : Option Expr} :
    signatureText i isAsync name inside result = signatureText i isAsync name inside' result ↔ inside = inside' := by
  simp [signatureText, String.append_assoc]

/-! ### What is listed -/

variable {i} in
theorem Lists.append {items items' : List String} {ds ds' : List (Passing × Param Expr)} (h : Lists i items ds)
    (h' : Lists i items' ds') : Lists i (items ++ items') (ds ++ ds') := by
  induction h with
  | nil => exact h'
  | entry d _ ih => exact .entry d ih
  | separator hmark _ ih => exact .separator hmark ih

theorem lists_map_entryText (ds : List (Passing × Param Expr)) : Lists i (ds.map (entryText i)) ds := by
  induction ds with
  | nil => exact .nil
  | cons d ds ih => exact .entry d ih

theorem entryText_eq (k : Passing) (p : Param Expr) : entryText i (k, p) = k.mark ++ paramText i p := by
  unfold entryText paramText
  cases p.hint.bind i.text? with
  | none => simp
  | some a => simp [String.append_assoc]

theorem map_paramText (k : Passing) (hk : k.mark = "") (ps : List (Param Expr)) :
    ps.map (paramText i) = (ps.map (k, ·)).map (entryText i) := by
  rw [List.map_map]
  refine List.map_congr_left fun p _ => ?_
  simp [entryText_eq, hk]

def Params.shown (ps : Params Expr) : List (Passing × Param Expr) := ps.declared.filter (·.1 ≠ .positionalOnly)

theorem Params.shown_eq (ps : Params Expr) :
    ps.shown = ps.regular.map (Passing.regular, ·) ++ (ps.rest.toList.map (Passing.rest, ·) ++
      (ps.keywordOnly.map (Passing.keywordOnly, ·) ++ ps.keywords.toList.map (Passing.keywords, ·))) := by
  have hkind (k : Passing) (l : List (Param Expr)) :
      (l.map (k, ·)).filter (·.1 ≠ .positionalOnly) = if k = .positionalOnly then [] else l.map (k, ·) := by
    split_ifs with hk <;> simp [hk]
  simp only [Params.shown, Params.declared, List.filter_append, hkind]
  simp

theorem Params.declared_eq (ps : Params Expr) :
    ps.declared = ps.positionalOnly.map (Passing.positionalOnly, ·) ++ ps.shown := by
  rw [Params.shown_eq, Params.declared]

def Params.bareStar (ps : Params Expr) : Bool := ps.rest.isNone && !ps.keywordOnly.isEmpty

/-- The items of a signature: what is shown, with a star before the parameters that are passed by name only. -/
theorem paramTexts_eq (ps : Params Expr) :
    ∃ before after, before ++ after = ps.shown ∧
      paramTexts i ps = before.map (entryText i) ++ ((if ps.bareStar then ["*"] else []) ++ after.map (entryText i)) := by
  rw [Params.shown_eq, paramTexts, map_paramText i .regular rfl ps.regular,
    map_paramText i .keywordOnly rfl ps.keywordOnly]
  have hkeywords : (ps.keywords.map fun p => "**" ++ paramText i p).toList =
      (ps.keywords.toList.map (Passing.keywords, ·)).map (entryText i) := by
    cases ps.keywords <;> simp [entryText_eq, Passing.mark]
  rw [hkeywords]
  cases hrest : ps.rest with
  | some p =>
    refine ⟨ps.regular.map (Passing.regular, ·) ++ [(Passing.rest, p)],
      ps.keywordOnly.map (Passing.keywordOnly, ·) ++ ps.keywords.toList.map (Passing.keywords, ·), ?_, ?_⟩
    · simp
    · simp [Params.bareStar, hrest, entryText_eq, Passing.mark]
  | none =>
    refine ⟨ps.regular.map (Passing.regular, ·), _, rfl, ?_⟩
    by_cases hnone : ps.keywordOnly = [] <;> simp [Params.bareStar, hrest, hnone]

theorem lists_paramTexts (ps : Params Expr) : Lists i (paramTexts i ps) ps.shown := by
  obtain ⟨before, after, hshown, hitems⟩ := paramTexts_eq i ps
  rw [hitems, ← hshown]
  refine (lists_map_entryText i before).append ?_
  split_ifs
  · exact .separator (.inl rfl) (lists_map_entryText i after)
  · exact lists_map_entryText i after

/-! ### What a list of all parameters would be -/

/-- The characters of items, with two for the comma and the space behind each. -/
def extent (items : List String) : Nat := (items.map fun i => i.toList.length + 2).sum

def stars (items : List String) : Nat := (items.map fun i => i.toList.count '*').sum

theorem extent_cons (item : String) (items : List String) :
    extent (item :: items) = item.toList.length + 2 + extent items := rfl

theorem stars_cons (item : String) (items : List String) :
    stars (item :: items) = item.toList.count '*' + stars items := rfl

theorem extent_append (items items' : List String) : extent (items ++ items') = extent items + extent items' := by
  simp [extent]

theorem stars_append (items items' : List String) : stars (items ++ items') = stars items + stars items' := by
  simp [stars]

theorem length_join (items : List String) : (Text.join ", " items).toList.length = extent items - 2 := by
  rw [Text.toList_join, Text.length_joinWith, List.map_map]
  rfl

theorem count_join (items : List String) : (Text.join ", " items).toList.count '*' = stars items := by
  rw [Text.toList_join, Text.count_joinWith (by decide), List.map_map]
  rfl

variable {i} in
theorem Lists.counts {items : List String} {ds : List (Passing × Param Expr)} (h : Lists i items ds) :
    ∃ separators starred, starred ≤ separators ∧ extent items = extent (ds.map (entryText i)) + 3 * separators ∧
      stars items = stars (ds.map (entryText i)) + starred := by
  induction h with
  | nil => exact ⟨0, 0, Nat.le_refl 0, rfl, rfl⟩
  | entry d _ ih =>
    obtain ⟨separators, starred, hle, hextent, hstars⟩ := ih
    refine ⟨separators, starred, hle, ?_, ?_⟩
    · simp only [extent, List.map_cons, List.sum_cons] at hextent ⊢
      omega
    · simp only [stars, List.map_cons, List.sum_cons] at hstars ⊢
      omega
  | @separator items ds mark hmark _ ih =>
    obtain ⟨separators, starred, hle, hextent, hstars⟩ := ih
    have hlength : mark.toList.length = 1 := by rcases hmark with rfl | rfl <;> rfl
    have hcount : mark.toList.count '*' ≤ 1 := by rcases hmark with rfl | rfl <;> decide
    refine ⟨separators + 1, starred + mark.toList.count '*', by omega, ?_, ?_⟩
    · simp only [extent, List.map_cons, List.sum_cons] at hextent ⊢
      omega
    · simp only [stars, List.map_cons, List.sum_cons] at hstars ⊢
      omega

theorem counts_paramTexts (ps : Params Expr) :
    extent (paramTexts i ps) = extent (ps.shown.map (entryText i)) + 3 * ps.bareStar.toNat ∧
      stars (paramTexts i ps) = stars (ps.shown.map (entryText i)) + ps.bareStar.toNat := by
  obtain ⟨before, after, hshown, hitems⟩ := paramTexts_eq i ps
  rw [hitems, ← hshown, List.map_append]
  simp only [extent_append, stars_append]
  cases ps.bareStar with
  | false => simp [extent, stars]
  | true =>
    have hextent : extent ["*"] = 3 := rfl
    have hstars : stars ["*"] = 1 := rfl
    simp only [if_true, Bool.toNat_true, hextent, hstars]
    omega

theorem not_star_of_named {k : Passing} {p : Param Expr} (hk : k.mark = "") (hname : p.name ≠ "")
    (hword : IsWord p.name.toList) :
    1 ≤ (entryText i (k, p)).toList.length ∧
      ((entryText i (k, p)).toList.length = 1 → (entryText i (k, p)).toList.count '*' = 0) := by
  have hpos : 1 ≤ p.name.toList.length := by
    rw [Nat.one_le_iff_ne_zero, ne_eq, List.length_eq_zero_iff]
    simpa using hname
  have hstar : '*' ∉ p.name.toList := fun hmem => absurd (hword '*' hmem) (by decide)
  rw [entryText, hk]
  cases p.hint.bind i.text? with
  | none => simpa [List.count_eq_zero.2 hstar] using hpos
  | some a =>
    simp only [String.toList_append, List.length_append, Option.map_some, Option.getD_some]
    have hcolon : (": " : String).toList.length = 2 := rfl
    omega

variable {i} in
/-- A text that lists all parameters is no signature where some are positional only. -/
theorem ne_of_lists {ps : Params Expr} (hnamed : ps.Named) (hne : ps.positionalOnly ≠ []) {items : List String}
    (h : Lists i items ps.declared) : Text.join ", " items ≠ Text.join ", " (paramTexts i ps) := by
  intro heq
  obtain ⟨separators, starred, hle, hextent, hstars⟩ := h.counts
  obtain ⟨hextent', hstars'⟩ := counts_paramTexts i ps
  have hbare := Bool.toNat_le ps.bareStar
  have hlength := congrArg (·.toList.length) heq
  have hcount := congrArg (·.toList.count '*') heq
  simp only [length_join, count_join] at hlength hcount
  obtain ⟨p, rest, hp⟩ := List.exists_cons_of_ne_nil hne
  have hmem : (Passing.positionalOnly, p) ∈ ps.declared := by simp [Params.declared, hp]
  obtain ⟨hname, hword⟩ : p.name ≠ "" ∧ IsWord p.name.toList := hnamed _ hmem
  obtain ⟨hpos, hstar⟩ := not_star_of_named i (k := .positionalOnly) rfl hname hword
  have hmap : ps.declared.map (entryText i) = entryText i (.positionalOnly, p) ::
      ((rest.map (Passing.positionalOnly, ·)).map (entryText i) ++ ps.shown.map (entryText i)) := by
    rw [Params.declared_eq, hp, List.map_append, List.map_cons, List.map_cons, List.cons_append]
  rw [hmap, extent_cons, extent_append] at hextent
  rw [hmap, stars_cons, stars_append] at hstars
  -- only one more parameter, of one character, can take the place of the star
  cases rest with
  | nil =>
    have hnil : extent [] = 0 ∧ stars [] = 0 := ⟨rfl, rfl⟩
    rw [List.map_nil, List.map_nil] at hextent hstars
    omega
  | cons q rest =>
    rw [List.map_cons, List.map_cons, extent_cons] at hextent
    omega

/-- A signature shows the parameters that are not positional only, each once and in order, and it shows all parameters
exactly if none is positional only. -/
theorem signature_shows_parameters_iff {ps : Params Expr} (h : ps.Named) (isAsync : Bool) (name : String)
    (result : Option Expr) (body : List Stmt) :
    (∃ items, signature? i (.functionDef isAsync name ps result body) =
        some (signatureText i isAsync name (Text.join ", " items) result) ∧
      Lists i items (ps.declared.filter (·.1 ≠ .positionalOnly))) ∧
    ((∃ items, signature? i (.functionDef isAsync name ps result body) =
        some (signatureText i isAsync name (Text.join ", " items) result) ∧ Lists i items ps.declared) ↔
      ps.positionalOnly = []) := by
  have hsignature : signature? i (.functionDef isAsync name ps result body) =
      some (signatureText i isAsync name (Text.join ", " (paramTexts i ps)) result) := rfl
  refine ⟨⟨paramTexts i ps, hsignature, lists_paramTexts i ps⟩, ?_, ?_⟩
  · rintro ⟨items, heq, hlists⟩
    by_contra hne
    refine ne_of_lists h hne hlists ?_
    rw [hsignature, Option.some.injEq, signatureText_inj] at heq
    exact heq.symm
  · intro hnone
    refine ⟨paramTexts i ps, hsignature, ?_⟩
    rw [Params.declared_eq, hnone]
    exact lists_paramTexts i ps

/-- A definition with a parameter that is positional only, one that is passed either way and one that is passed by name
only. -/
def mixedParams : Params Expr where
  positionalOnly := [⟨"a", none, none⟩]
  regular := [⟨"b", some (.name "int"), none⟩]
  keywordOnly := [⟨"c", none, none⟩]

theorem positionalOnly_not_shown :
    mixedParams.Named ∧ signature? {} (.functionDef true "f" mixedParams none []) = some "async def f(b: int, *, c)" ∧
      ¬∃ items, signature? {} (.functionDef true "f" mixedParams none []) =
        some (signatureText {} true "f" (Text.join ", " items) none) ∧ Lists {} items mixedParams.declared := by
  have hnamed : mixedParams.Named := by
    intro d hd
    simp only [Params.declared, mixedParams, List.map_cons, List.map_nil, Option.toList_none, List.cons_append,
      List.nil_append, List.mem_cons, List.not_mem_nil, or_false] at hd
    rcases hd with rfl | rfl | rfl <;> exact ⟨by decide, Text.isWord_of_all (by decide)⟩
  refine ⟨hnamed, by decide +kernel, ?_⟩
  rw [(signature_shows_parameters_iff {} hnamed true "f" none []).2]
  simp [mixedParams]

end IssuePlanner.Outline.Script
