import IssuePlanner.Outline.Script
import IssuePlanner.Proofs.Outline.Naming
import IssuePlanner.Proofs.Text.Pick
import IssuePlanner.Proofs.Text.Replace

/-! The outline of a script is its public interface. A line of an outline is read back as what it declares
(`declaration`), and the lines of a script that parses declare exactly its public definitions, in order, with the
attributes and the public members after each class. A line tells its name because names are words and what follows one
does not go on with a letter. -/

namespace IssuePlanner.Outline.Script

open Lexer (isLetterLike)
open Text (IsWord isWord_cons isWord_of_all after? after?_append after?_eq_some replaceAll replaceAll_append
  replaceAll_cons replaceAll_nil replaceAll_of_not_mem)

inductive Kind where
  | function
  | asyncFunction
  | classType
  | field
  deriving DecidableEq, Repr

def Kind.keyword : Kind → String
  | .function => "def "
  | .asyncFunction => "async def "
  | .classType => "class "
  | .field => ""

structure Declaration where
  nested : Bool
  kind : Kind
  /-- The class written before the name. -/
  owner : Option String
  name : String
  deriving DecidableEq, Repr

/-! ### Reading a line -/

/-- A name at the front, and what stands before it if that is another name and a point. -/
def qualifiedName (cs : List Char) : Option String × String :=
  let word := String.ofList (cs.takeWhile isLetterLike)
  match cs.dropWhile isLetterLike with
  | '.' :: rest => (some word, String.ofList (rest.takeWhile isLetterLike))
  | _ => (none, word)

/-- The kind of a line, and what follows its keyword. -/
def kindOf (cs : List Char) : Kind × List Char :=
  match [Kind.asyncFunction, .function, .classType].findSome? fun k =>
      (after? k.keyword.toList cs).map (k, ·) with
  | some x => x
  | none => (.field, cs)

def declaration (line : String) : Declaration :=
  let (nested, cs) := match after? "    ".toList line.toList with
    | some cs => (true, cs)
    | none => (false, line.toList)
  let (kind, rest) := kindOf cs
  let (owner, name) := qualifiedName rest
  ⟨nested, kind, owner, name⟩

/-! ### The public interface -/

def definition? : Stmt → Option (Kind × String)
  | .functionDef false x .. => some (.function, x)
  | .functionDef true x .. => some (.asyncFunction, x)
  | .classDef x .. => some (.classType, x)
  | _ => none

def publicDefinition? (s : Stmt) : Option (Kind × String) := (definition? s).filter fun d => !isPrivate d.2

/-- The name that a statement of a class body gives a type or a value. -/
def declaredName? : Stmt → Option String
  | .annotate (.name x) _ | .assign [.name x] => some x
  | _ => none

def assignedName? : Stmt → Option String
  | .assign [.name x] => some x
  | _ => none

/-- The public attributes of a class, and once more the values of an enumeration, which are in upper case. -/
def attributeNames (bases : List Expr) (body : List Stmt) : List String :=
  (body.filterMap declaredName?).filter (!isPrivate ·) ++
    if bases.any isEnumBase then
      (body.filterMap assignedName?).filter fun x => !isPrivate x && Text.isUpperText x.toList
    else []

/-- A public definition in the body of a class. Only functions name the class. -/
def member? (owner : String) (s : Stmt) : Option Declaration :=
  (publicDefinition? s).map fun (kind, x) => ⟨true, kind, if kind = .classType then none else some owner, x⟩

def members : Stmt → List Declaration
  | .classDef x bases body =>
    (attributeNames bases body).map (⟨true, .field, none, ·⟩) ++ body.filterMap (member? x)
  | _ => []

/-- Every public definition of a script, in order, with the attributes and the public members after a class. -/
def publicApi (body : List Stmt) : List Declaration :=
  body.flatMap fun s => match publicDefinition? s with
    | some (kind, x) => ⟨false, kind, none, x⟩ :: members s
    | none => []

/-! ### What is read -/

section Reading

variable {w rest new cs : List Char} {x y : String}

def Closes (rest : List Char) : Prop := ∀ c ∈ rest.head?, c = '(' ∨ c = ':' ∨ c = ' '

theorem Closes.append {more : List Char} (h : Closes rest) (hmore : Closes more) : Closes (rest ++ more) := by
  cases rest with
  | nil => exact hmore
  | cons c rest => exact h

theorem Closes.not_isLetterLike (h : Closes rest) : ∀ c ∈ rest.head?, isLetterLike c = false := by
  intro c hc
  rcases h c hc with rfl | rfl | rfl <;> decide

/-- Nothing, or a text that starts with `c`. -/
def Led (c : Char) (rest : List Char) : Prop := rest = [] ∨ ∃ more, rest = c :: more

theorem Led.closes {c : Char} (h : Led c rest) (hc : c = '(' ∨ c = ':' ∨ c = ' ') : Closes rest := by
  rcases h with rfl | ⟨more, rfl⟩
  · rintro d ⟨⟩
  · rintro d ⟨⟩
    exact hc

theorem Led.head?_ne {c d : Char} (h : Led c rest) (hc : c ≠ d) : rest.head? ≠ some d := by
  rcases h with rfl | ⟨more, rfl⟩ <;> simp [hc]

theorem takeWhile_word (hw : IsWord w) (h : ∀ c ∈ rest.head?, isLetterLike c = false) :
    (w ++ rest).takeWhile isLetterLike = w := by
  rw [List.takeWhile_append_of_pos hw]
  cases rest with
  | nil => simp
  | cons c rest => simp [h c rfl]

theorem dropWhile_word (hw : IsWord w) (h : ∀ c ∈ rest.head?, isLetterLike c = false) :
    (w ++ rest).dropWhile isLetterLike = rest := by
  rw [List.dropWhile_append_of_pos hw]
  cases rest with
  | nil => rfl
  | cons c rest => simp [h c rfl]

theorem qualifiedName_word (hx : IsWord x.toList) (h : Closes rest) : qualifiedName (x.toList ++ rest) = (none, x) := by
  unfold qualifiedName
  rw [takeWhile_word hx h.not_isLetterLike, dropWhile_word hx h.not_isLetterLike, String.ofList_toList]
  split
  · rcases h '.' rfl with h | h | h <;> cases h
  · rfl

theorem qualifiedName_owned (hy : IsWord y.toList) (hx : IsWord x.toList) (h : Closes rest) :
    qualifiedName (y.toList ++ '.' :: (x.toList ++ rest)) = (some y, x) := by
  have hpoint : ∀ c ∈ ('.' :: (x.toList ++ rest)).head?, isLetterLike c = false := by
    rintro c ⟨⟩
    decide
  unfold qualifiedName
  rw [takeWhile_word hy hpoint, dropWhile_word hy hpoint]
  simp only [takeWhile_word hx h.not_isLetterLike, String.ofList_toList]

/-- No word with a blank behind it stands at the front of a word that no blank follows. -/
theorem not_word_blank_isPrefix (k more : List Char) (hk : IsWord k) (hw : IsWord w) (h : Closes rest)
    (hblank : rest.head? ≠ some ' ') : ¬k ++ ' ' :: more <+: w ++ rest := by
  -- along both words: in the end the blank is either a letter of `w` or the first character after it
  induction k generalizing w with
  | nil =>
    cases w with
    | nil =>
      cases rest with
      | nil => simp
      | cons c rest => simpa [List.cons_prefix_cons, eq_comm] using fun hc => absurd hc (by simpa using hblank)
    | cons c w =>
      have hc := (isWord_cons.1 hw).1
      intro hprefix
      rw [List.nil_append, List.cons_append, List.cons_prefix_cons] at hprefix
      rw [← hprefix.1] at hc
      exact absurd hc (by decide)
  | cons a k ih =>
    rw [isWord_cons] at hk
    cases w with
    | nil =>
      cases rest with
      | nil => simp
      | cons c rest =>
        intro hprefix
        rw [List.cons_append, List.nil_append, List.cons_prefix_cons] at hprefix
        have hc := h.not_isLetterLike c rfl
        rw [← hprefix.1, hk.1] at hc
        cases hc
    | cons c w =>
      rw [List.cons_append, List.cons_append, List.cons_prefix_cons]
      exact fun hprefix => ih hk.2 (isWord_cons.1 hw).2 hprefix.2

theorem kindOf_keyword {k : Kind} (hk : k ≠ .field) (cs : List Char) :
    kindOf (k.keyword.toList ++ cs) = (k, cs) := by
  cases k with
  | field => exact absurd rfl hk
  | _ => rfl

theorem kindOf_word (hw : IsWord w) (h : Closes rest) (hblank : rest.head? ≠ some ' ') :
    kindOf (w ++ rest) = (.field, w ++ rest) := by
  have hnone (k more : List Char) (hk : IsWord k) : after? (k ++ ' ' :: more) (w ++ rest) = none := by
    by_contra hsome
    obtain ⟨r, hr⟩ := Option.ne_none_iff_exists'.1 hsome
    exact not_word_blank_isPrefix k more hk hw h hblank ⟨r, (after?_eq_some.1 hr).symm⟩
  have hasync : after? Kind.asyncFunction.keyword.toList (w ++ rest) = none :=
    hnone "async".toList "def ".toList (isWord_of_all rfl)
  have hfunction : after? Kind.function.keyword.toList (w ++ rest) = none :=
    hnone "def".toList [] (isWord_of_all rfl)
  have hclass : after? Kind.classType.keyword.toList (w ++ rest) = none :=
    hnone "class".toList [] (isWord_of_all rfl)
  simp only [kindOf, List.findSome?, hasync, hfunction, hclass, Option.map_none]

theorem declaration_indented (s : String) :
    declaration ("    " ++ s) =
      ⟨true, (kindOf s.toList).1, (qualifiedName (kindOf s.toList).2).1, (qualifiedName (kindOf s.toList).2).2⟩ := by
  rw [declaration, String.toList_append, after?_append]

theorem declaration_keyword {k : Kind} (hk : k ≠ .field) {s : String} (hs : s.toList = k.keyword.toList ++ cs) :
    declaration s = ⟨false, k, (qualifiedName cs).1, (qualifiedName cs).2⟩ := by
  have hnone : after? "    ".toList s.toList = none := by
    rw [hs]
    cases k with
    | field => exact absurd rfl hk
    | _ => rfl
  rw [declaration, hnone, hs]
  dsimp only
  rw [kindOf_keyword hk]

/-! ### Naming the class of a function -/

theorem replaceAll_word (hw : IsWord w) (h : Closes rest) (hblank : rest.head? ≠ some ' ') :
    replaceAll "def ".toList new (w ++ rest) = w ++ replaceAll "def ".toList new rest := by
  induction w with
  | nil => rfl
  | cons c w ih =>
    have hprefix : ¬"def ".toList <+: c :: (w ++ rest) :=
      not_word_blank_isPrefix "def".toList [] (isWord_of_all rfl) hw h hblank
    rw [List.cons_append, replaceAll_cons hprefix, ih (isWord_cons.1 hw).2, List.cons_append]

theorem Led.replaceAll (h : Led '(' rest) (new : List Char) : Led '(' (replaceAll "def ".toList new rest) := by
  rcases h with rfl | ⟨more, rfl⟩
  · exact .inl (replaceAll_nil _ _)
  · exact .inr ⟨_, replaceAll_cons (fun h => absurd (List.cons_prefix_cons.1 h).1 (by decide)) new⟩

/-- In a signature the class stands before the name of a function, and nowhere before the name of a class. -/
theorem exists_replaceAll_signature {k : Kind} (hk : k ≠ .field) (hx : IsWord x.toList) (h : Led '(' rest) (y : String) :
    ∃ rest', Led '(' rest' ∧
      replaceAll "def ".toList ("def " ++ y ++ ".").toList (k.keyword.toList ++ (x.toList ++ rest)) =
        k.keyword.toList ++ (if k = .classType then x.toList ++ rest' else y.toList ++ '.' :: (x.toList ++ rest')) := by
  refine ⟨_, h.replaceAll ("def " ++ y ++ ".").toList, ?_⟩
  have hnew : ("def " ++ y ++ ".").toList = "def ".toList ++ (y.toList ++ ['.']) := by
    simp only [String.toList_append, List.append_assoc]
    rfl
  generalize ("def " ++ y ++ ".").toList = new at hnew ⊢
  have hname : replaceAll "def ".toList new (x.toList ++ rest) = x.toList ++ replaceAll "def ".toList new rest :=
    replaceAll_word hx (h.closes (.inl rfl)) (h.head?_ne (by decide))
  have hfunction : replaceAll "def ".toList new ("def ".toList ++ (x.toList ++ rest)) =
      "def ".toList ++ (y.toList ++ '.' :: (x.toList ++ replaceAll "def ".toList new rest)) := by
    rw [replaceAll_append (by decide), hname]
    nth_rewrite 1 [hnew]
    simp only [List.append_assoc, List.singleton_append]
  -- what stands before `def ` or a name has no `d`, so no copy starts there
  have hfront (front cs : List Char) (hd : 'd' ∉ front) :
      replaceAll "def ".toList new (front ++ cs) = front ++ replaceAll "def ".toList new cs :=
    replaceAll_of_not_mem hd new
  cases k with
  | function => exact hfunction
  | asyncFunction =>
    exact (hfront "async ".toList _ (by decide)).trans (congrArg ("async ".toList ++ ·) hfunction)
  | classType =>
    exact (hfront "class ".toList _ (by decide)).trans (congrArg ("class ".toList ++ ·) hname)
  | field => exact absurd rfl hk

end Reading

/-! ### Lines and what they declare -/

section Lines

variable (i : Interpreter) {s : Stmt} {k : Kind} {x y : String}

theorem definedName?_eq (s : Stmt) : definedName? s = (definition? s).map (·.2) := by
  cases s with
  | functionDef isAsync => cases isAsync <;> rfl
  | _ => rfl

theorem isPublic_eq (s : Stmt) : isPublic s = (publicDefinition? s).isSome := by
  rw [isPublic, definedName?_eq, publicDefinition?]
  cases definition? s with
  | none => rfl
  | some d => cases h : isPrivate d.2 <;> simp [Option.filter, h]

theorem publicDefinition?_eq_some :
    publicDefinition? s = some (k, x) ↔ definition? s = some (k, x) ∧ isPrivate x = false := by
  simp [publicDefinition?, Option.filter_eq_some_iff]

theorem Stmt.WellNamed.word (hs : s.WellNamed) (h : definition? s = some (k, x)) : IsWord x.toList := by
  cases hs with
  | @functionDef isAsync _ _ _ _ hname => cases isAsync <;> cases h <;> exact hname
  | classDef hname =>
    cases h
    exact hname
  | _ => cases h

theorem exists_functionSignature (isAsync : Bool) (x : String) (ps : Params Expr) (result : Option Expr) :
    ∃ more, (functionSignature i isAsync x ps result).toList =
      (if isAsync then Kind.asyncFunction else .function).keyword.toList ++ (x.toList ++ '(' :: more) := by
  simp only [functionSignature, String.toList_append, List.append_assoc]
  cases isAsync <;> exact ⟨_, rfl⟩

theorem exists_classSignature (x : String) (bases : List Expr) :
    ∃ rest, (classSignature x bases).toList = Kind.classType.keyword.toList ++ (x.toList ++ rest) ∧ Led '(' rest := by
  unfold classSignature
  split
  · exact ⟨[], by rw [String.toList_append, List.append_nil]; rfl, .inl rfl⟩
  · simp only [String.toList_append, List.append_assoc]
    exact ⟨_, rfl, .inr ⟨_, rfl⟩⟩

theorem exists_signature (h : definition? s = some (k, x)) : k ≠ .field ∧ ∃ sig rest, signature? i s = some sig ∧
    sig.toList = k.keyword.toList ++ (x.toList ++ rest) ∧ Led '(' rest := by
  cases s with
  | functionDef isAsync name params result body =>
    obtain ⟨more, hmore⟩ := exists_functionSignature i isAsync name params result
    cases isAsync <;> cases h <;> exact ⟨by decide, _, _, rfl, hmore, .inr ⟨more, rfl⟩⟩
  | classDef name bases body =>
    cases h
    obtain ⟨rest, hrest⟩ := exists_classSignature x bases
    exact ⟨by decide, _, rest, rfl, hrest⟩
  | _ => cases h

theorem closes_remark (summary : Option String) : Closes (remark summary).toList := by
  cases summary with
  | none => rintro c ⟨⟩
  | some t =>
    rintro c hc
    rw [remark, Option.map_some, Option.getD_some, String.toList_append] at hc
    cases hc
    exact .inr (.inr rfl)

theorem declaration_definition (hs : s.WellNamed) (h : definition? s = some (k, x)) :
    ∃ sig, signature? i s = some sig ∧
      declaration (sig ++ remark (Docstring.summary? (bodyOf s))) = ⟨false, k, none, x⟩ := by
  obtain ⟨hk, sig, rest, hsig, hlist, hrest⟩ := exists_signature i h
  refine ⟨sig, hsig, ?_⟩
  have hline : (sig ++ remark (Docstring.summary? (bodyOf s))).toList =
      k.keyword.toList ++ (x.toList ++ (rest ++ (remark (Docstring.summary? (bodyOf s))).toList)) := by
    rw [String.toList_append, hlist, List.append_assoc, List.append_assoc]
  rw [declaration_keyword hk hline, qualifiedName_word (hs.word h) ((hrest.closes (.inl rfl)).append (closes_remark _))]

theorem declaration_methodLine (hy : IsWord y.toList) (hs : s.WellNamed) :
    (methodLine? i y s).map declaration = member? y s := by
  rw [methodLine?, isPublic_eq, member?]
  cases hd : publicDefinition? s with
  | none => rfl
  | some d =>
    obtain ⟨k, x⟩ := d
    have hdef := (publicDefinition?_eq_some.1 hd).1
    obtain ⟨hk, sig, rest, hsig, hlist, hrest⟩ := exists_signature i hdef
    obtain ⟨rest', hrest', hreplace⟩ := exists_replaceAll_signature hk (hs.word hdef) hrest y
    have hend := (hrest'.closes (.inl rfl)).append (closes_remark (Docstring.summary? (bodyOf s)))
    rw [hsig, Option.isSome_some, if_pos rfl, Option.map_some, Option.map_some, Option.map_some, String.append_assoc,
      declaration_indented, String.toList_append, Text.replace, String.toList_ofList, hlist, hreplace, List.append_assoc,
      kindOf_keyword hk]
    dsimp only
    split_ifs with hclass
    · rw [List.append_assoc, qualifiedName_word (hs.word hdef) hend]
    · rw [List.append_assoc, List.cons_append, List.append_assoc, qualifiedName_owned hy (hs.word hdef) hend]

theorem declaration_field (rest : String) (hx : IsWord x.toList) (h : Led ':' rest.toList) :
    declaration ("    " ++ (x ++ rest)) = ⟨true, .field, none, x⟩ := by
  have hcloses := h.closes (.inr (.inl rfl))
  rw [declaration_indented, String.toList_append, kindOf_word hx hcloses (h.head?_ne (by decide)),
    qualifiedName_word hx hcloses]

theorem declaration_name (hx : IsWord x.toList) : declaration ("    " ++ x) = ⟨true, .field, none, x⟩ := by
  have hname := declaration_field "" hx (.inl rfl)
  rwa [String.append_empty] at hname

theorem declaration_attribute (hs : s.WellNamed) :
    ((attribute? s).map ("    " ++ ·)).map declaration =
      ((declaredName? s).filter (!isPrivate ·)).map (⟨true, .field, none, ·⟩) := by
  unfold attribute?
  split
  · rename_i x t
    cases hs with
    | annotate hx =>
      have htyped : Led ':' (": " ++ t).toList := .inr ⟨' ' :: t.toList, String.toList_append⟩
      have hline := declaration_field _ hx htyped
      have hassoc : x ++ (": " ++ t) = x ++ ": " ++ t := String.append_assoc.symm
      rw [hassoc] at hline
      split <;> simp_all [declaredName?, Option.filter]
  · cases hs with
    | annotate hx =>
      have hline := declaration_field ": Any" hx (.inr ⟨_, rfl⟩)
      split <;> simp_all [declaredName?, Option.filter]
  · cases hs with
    | assign hx =>
      have hname := declaration_name (hx _ (List.mem_singleton_self _))
      split <;> simp_all [declaredName?, Option.filter]
  · unfold declaredName?
    split <;> simp_all

theorem declaration_enumValue (hs : s.WellNamed) :
    ((enumValue? s).map ("    " ++ ·)).map declaration =
      ((assignedName? s).filter fun x => !isPrivate x && Text.isUpperText x.toList).map (⟨true, .field, none, ·⟩) := by
  unfold enumValue?
  split
  · cases hs with
    | assign hx =>
      have hname := declaration_name (hx _ (List.mem_singleton_self _))
      split <;> simp_all [assignedName?, Option.filter]
  · unfold assignedName?
    split <;> simp_all

theorem map_attributes {body : List Stmt} (hbody : ∀ s ∈ body, s.WellNamed) (bases : List Expr) :
    ((attributes bases body).map ("    " ++ ·)).map declaration =
      (attributeNames bases body).map (⟨true, .field, none, ·⟩) := by
  rw [attributes, attributeNames, List.map_append, List.map_append, List.map_append, List.filter_filterMap,
    List.map_filterMap, List.map_filterMap, List.map_filterMap,
    List.filterMap_congr fun s hs => declaration_attribute (hbody s hs)]
  congr 1
  split
  · rw [List.filter_filterMap, List.map_filterMap, List.map_filterMap, List.map_filterMap,
      List.filterMap_congr fun s hs => declaration_enumValue (hbody s hs)]
  · rfl

theorem map_definitionLines (hs : s.WellNamed) :
    (definitionLines i s).map declaration = match publicDefinition? s with
      | some (kind, x) => ⟨false, kind, none, x⟩ :: members s
      | none => [] := by
  unfold definitionLines
  rw [isPublic_eq]
  cases hd : publicDefinition? s with
  | none => rfl
  | some d =>
    obtain ⟨k, x⟩ := d
    obtain ⟨sig, hsig, hline⟩ := declaration_definition i hs (publicDefinition?_eq_some.1 hd).1
    rw [hsig, Option.isSome_some, if_pos rfl]
    dsimp only
    rw [List.map_cons, hline]
    congr 1
    cases hs with
    | @classDef name bases body hname hbody =>
      dsimp only [members]
      rw [List.map_append, map_attributes hbody, List.map_filterMap,
        List.filterMap_congr fun s hs => declaration_methodLine i hname (hbody s hs)]
    | _ => rfl

end Lines

theorem isPrivate_of_mem_members {s : Stmt} {d : Declaration} (h : d ∈ members s) : isPrivate d.name = false := by
  cases s with
  | classDef x bases body =>
    rcases List.mem_append.1 h with h | h
    · obtain ⟨y, hy, rfl⟩ := List.mem_map.1 h
      rw [attributeNames, List.mem_append] at hy
      rcases hy with hy | hy
      · simpa using (List.mem_filter.1 hy).2
      · split_ifs at hy
        · exact (by simpa using (List.mem_filter.1 hy).2 : _ ∧ _).1
        · cases hy
    · obtain ⟨t, -, ht⟩ := List.mem_filterMap.1 h
      obtain ⟨⟨k, y⟩, hy, rfl⟩ := Option.map_eq_some_iff.1 ht
      exact (publicDefinition?_eq_some.1 hy).2
  | _ => cases h

theorem isPrivate_of_mem_publicApi {body : List Stmt} {d : Declaration} (h : d ∈ publicApi body) :
    isPrivate d.name = false := by
  obtain ⟨s, -, hd⟩ := List.mem_flatMap.1 h
  split at hd
  · rename_i k x hs
    rcases List.mem_cons.1 hd with rfl | hd
    · exact (publicDefinition?_eq_some.1 hs).2
    · exact isPrivate_of_mem_members hd
  · cases hd

/-- The lines of a script that parses declare its public interface, one line for each declaration and in order, and
nothing private. -/
theorem outline_declares_public_interface (i : Interpreter) (index : Option (List Symbol)) {source : String}
    {body : List Stmt} (hfault : i.parseFault source = none) (h : Grammar.script? source.toList = some body) :
    ∃ lines, outline i index source = .ok lines ∧ lines.map declaration = publicApi body ∧
      ∀ line ∈ lines, isPrivate (declaration line).name = false := by
  have hlines : (linesOf i index source).map declaration = publicApi body := by
    rw [linesOf, h, publicApi, List.map_flatMap]
    exact List.flatMap_congr fun s hs => map_definitionLines i (Grammar.wellNamed_of_script h s hs)
  refine ⟨linesOf i index source, by rw [outline, hfault], hlines, fun line hline => ?_⟩
  have hmem : declaration line ∈ publicApi body := hlines ▸ List.mem_map_of_mem hline
  exact isPrivate_of_mem_publicApi hmem

/-- A script with names that end as a keyword does, and a hint that holds one. -/
def modeScript : String :=
  "class Mode(Enum):\n  OFF = None\n  _on: int\n  level: int\n  async def undef(self, x: 'def '): pass\n" ++
  "  def _hide(self): pass\n  class Undef: pass\n_state = None\ndef _reset(): pass\ndef reset(): pass\n"

def modeInterface : List Declaration :=
  [⟨false, .classType, none, "Mode"⟩, ⟨true, .field, none, "OFF"⟩, ⟨true, .field, none, "level"⟩,
    ⟨true, .field, none, "OFF"⟩, ⟨true, .asyncFunction, some "Mode", "undef"⟩, ⟨true, .classType, none, "Undef"⟩,
    ⟨false, .function, none, "reset"⟩]

theorem modeScript_interface :
    ∃ body lines, Grammar.script? modeScript.toList = some body ∧ outline {} none modeScript = .ok lines ∧
      lines.map declaration = modeInterface ∧ ∀ line ∈ lines, isPrivate (declaration line).name = false := by
  have hparse : (Grammar.script? modeScript.toList).map publicApi = some modeInterface := by decide +kernel
  obtain ⟨body, hbody, hinterface⟩ := Option.map_eq_some_iff.1 hparse
  obtain ⟨lines, hlines, hdeclared, hpublic⟩ := outline_declares_public_interface {} none rfl hbody
  exact ⟨body, lines, hbody, hlines, hdeclared.trans hinterface, hpublic⟩

end IssuePlanner.Outline.Script
