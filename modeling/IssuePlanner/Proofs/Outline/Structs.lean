import IssuePlanner.Outline.Package
import IssuePlanner.Proofs.Text.Lines
import IssuePlanner.Proofs.Text.Pick

/-! Finding the structs of a package. The reader of a struct takes a declaration that is put together from its tokens and
the blanks between them, and nothing else (`struct?_text`, `exists_of_struct?`). No reading starts in front of a
declaration and goes beyond its start, unless a struct is left open there, so every declared struct is found
(`mem_findAll_struct?`). -/

namespace IssuePlanner.Outline.Package

variable {cs rest gap name inside : List Char}

/-! ### Tokens -/

theorem stripLeft_append (hgap : ∀ c ∈ gap, Text.isBlank c = true) (hrest : ∀ c ∈ rest.head?, Text.isBlank c = false) :
    Text.stripLeft (gap ++ rest) = rest := by
  rw [Text.stripLeft, List.dropWhile_append_of_pos hgap]
  exact Text.stripLeft_of_not_blank hrest

theorem exists_stripLeft (cs : List Char) : ∃ gap, cs = gap ++ Text.stripLeft cs ∧ ∀ c ∈ gap, Text.isBlank c = true :=
  ⟨cs.takeWhile Text.isBlank, (Text.stripLeft_eq_append cs).symm, fun _ => List.mem_takeWhile_imp⟩

theorem gap?_append (hne : gap ≠ []) (hgap : ∀ c ∈ gap, Text.isBlank c = true)
    (hrest : ∀ c ∈ rest.head?, Text.isBlank c = false) : gap? (gap ++ rest) = some rest := by
  obtain ⟨c, gap, rfl⟩ := List.exists_cons_of_ne_nil hne
  rw [List.cons_append, gap?, if_pos (hgap c (by simp)), stripLeft_append (fun d hd => hgap d (by simp [hd])) hrest]

theorem exists_of_gap? (h : gap? cs = some rest) :
    ∃ gap, cs = gap ++ rest ∧ gap ≠ [] ∧ ∀ c ∈ gap, Text.isBlank c = true := by
  cases cs with
  | nil => cases h
  | cons c cs =>
    rw [gap?] at h
    split_ifs at h with hc
    cases h
    obtain ⟨gap, hcs, hgap⟩ := exists_stripLeft cs
    exact ⟨c :: gap, by rw [List.cons_append, ← hcs], by simp, by simpa [hc] using hgap⟩

/-- An exported name: a capital letter of ASCII and further characters of words. -/
def IsExportedName (name : List Char) : Prop :=
  ∃ c r, name = c :: r ∧ 'A' ≤ c ∧ c ≤ 'Z' ∧ ∀ d ∈ r, Text.isWordChar d = true

theorem exported?_append (hname : IsExportedName name) (hrest : ∀ c ∈ rest.head?, Text.isWordChar c = false) :
    exported? (name ++ rest) = some (name, rest) := by
  obtain ⟨c, r, rfl, hA, hZ, hr⟩ := hname
  have htake : rest.takeWhile Text.isWordChar = [] := by
    cases rest with
    | nil => rfl
    | cons d rest => exact List.takeWhile_cons_of_neg (by simp [hrest d rfl])
  have hdrop : rest.dropWhile Text.isWordChar = rest := by
    cases rest with
    | nil => rfl
    | cons d rest => exact List.dropWhile_cons_of_neg (by simp [hrest d rfl])
  rw [List.cons_append, exported?, if_pos (by simp [hA, hZ]), List.takeWhile_append_of_pos hr,
    List.dropWhile_append_of_pos hr, htake, hdrop, List.append_nil]

theorem exists_of_exported? (h : exported? cs = some (name, rest)) : cs = name ++ rest ∧ IsExportedName name := by
  cases cs with
  | nil => cases h
  | cons c cs =>
    rw [exported?] at h
    split_ifs at h with hc
    cases h
    rw [Bool.and_eq_true, decide_eq_true_eq, decide_eq_true_eq] at hc
    exact ⟨by rw [List.cons_append, List.takeWhile_append_dropWhile],
      c, cs.takeWhile Text.isWordChar, rfl, hc.1, hc.2, fun _ => List.mem_takeWhile_imp⟩

theorem enclosed?_eq_some {opening closing : Char} :
    enclosed? opening closing cs = some (inside, rest) ↔
      cs = opening :: (inside ++ closing :: rest) ∧ closing ∉ inside := by
  constructor
  · intro h
    cases cs with
    | nil => cases h
    | cons c cs =>
      rw [enclosed?] at h
      split_ifs at h with hc
      split at h
      · next d rest' hdrop =>
        cases h
        have hd : d = closing := by
          have hnot := List.head?_dropWhile_not (fun c => decide (c ≠ closing)) cs
          rw [hdrop] at hnot
          simpa using hnot
        refine ⟨?_, fun hmem => by simpa using List.mem_takeWhile_imp hmem⟩
        rw [hc, ← hd, ← hdrop, hd, List.takeWhile_append_dropWhile]
      · cases h
  · rintro ⟨rfl, hinside⟩
    have hpos : ∀ c ∈ inside, decide (c ≠ closing) = true := by
      intro c hc
      rw [decide_eq_true_eq]
      rintro rfl
      exact hinside hc
    rw [enclosed?, if_pos rfl, List.dropWhile_append_of_pos hpos, List.takeWhile_append_of_pos hpos,
      List.dropWhile_cons_of_neg (by simp), List.takeWhile_cons_of_neg (by simp), List.append_nil]

/-! ### Headers -/

def isSourceBlank (c : Char) : Bool := c = ' ' || c = '\t' || c = '\r' || c = '\n'

theorem isBlank_of_isSourceBlank {c : Char} (h : isSourceBlank c = true) : Text.isBlank c = true := by
  simp only [isSourceBlank, Bool.or_eq_true, decide_eq_true_eq] at h
  rcases h with ((rfl | rfl) | rfl) | rfl <;> decide

theorem not_isWordChar_of_isSourceBlank {c : Char} (h : isSourceBlank c = true) : Text.isWordChar c = false := by
  simp only [isSourceBlank, Bool.or_eq_true, decide_eq_true_eq] at h
  rcases h with ((rfl | rfl) | rfl) | rfl <;> decide

def typeWord : List Char := ['t', 'y', 'p', 'e']

def structWord : List Char := ['s', 't', 'r', 'u', 'c', 't']

/-- What stands in front of the braces of a struct, with blanks of a class between the tokens. -/
structure Header (blank : Char → Bool) (name header : List Char) : Prop where
  exported : IsExportedName name
  tokens : ∃ afterType afterName beforeBody, afterType ≠ [] ∧ afterName ≠ [] ∧
    (∀ c ∈ afterType, blank c = true) ∧ (∀ c ∈ afterName, blank c = true) ∧ (∀ c ∈ beforeBody, blank c = true) ∧
    header = typeWord ++ (afterType ++ (name ++ (afterName ++ (structWord ++ beforeBody))))

theorem head?_exported (hname : IsExportedName name) (rest : List Char) :
    ∀ c ∈ (name ++ rest).head?, 'A' ≤ c ∧ c ≤ 'Z' := by
  obtain ⟨c, r, rfl, hA, hZ, -⟩ := hname
  simp [hA, hZ]

theorem not_isBlank_of_exported (hname : IsExportedName name) (rest : List Char) :
    ∀ c ∈ (name ++ rest).head?, Text.isBlank c = false := by
  intro c hc
  obtain ⟨hA, hZ⟩ := head?_exported hname rest c hc
  have hlow : 65 ≤ c.toNat := hA
  have hhigh : c.toNat ≤ 90 := hZ
  simp only [Text.isBlank]
  grind

theorem struct?_text {header : List Char} (h : Header isSourceBlank name header) (hinside : '}' ∉ inside) (b : Bool) :
    struct? b (header ++ '{' :: (inside ++ '}' :: rest)) = some ((name, inside), rest) := by
  obtain ⟨hname, g₁, g₂, g₃, hg₁, hg₂, hblank₁, hblank₂, hblank₃, rfl⟩ := h
  have hend : ∀ tail, ∀ c ∈ (g₂ ++ tail).head?, Text.isWordChar c = false := by
    obtain ⟨c, g₂, rfl⟩ := List.exists_cons_of_ne_nil hg₂
    intro tail d hd
    obtain rfl : c = d := by simpa using hd
    exact not_isWordChar_of_isSourceBlank (hblank₂ c (by simp))
  have hbody : Text.stripLeft (g₃ ++ '{' :: (inside ++ '}' :: rest)) = '{' :: (inside ++ '}' :: rest) :=
    stripLeft_append (fun c hc => isBlank_of_isSourceBlank (hblank₃ c hc)) (by simp; decide)
  simp only [List.append_assoc, struct?, typeName?, Option.bind_eq_bind, Option.pure_def]
  rw [show ['t', 'y', 'p', 'e'] = typeWord from rfl, show "struct".toList = structWord from rfl,
    Text.after?_append, Option.bind_some,
    gap?_append hg₁ (fun c hc => isBlank_of_isSourceBlank (hblank₁ c hc)) (not_isBlank_of_exported hname _),
    Option.bind_some,
    exported?_append hname (hend _), Option.bind_some,
    gap?_append hg₂ (fun c hc => isBlank_of_isSourceBlank (hblank₂ c hc)) (by simp [structWord]; decide), Option.bind_some,
    Option.bind_some, Text.after?_append, Option.bind_some, hbody, enclosed?_eq_some.2 ⟨rfl, hinside⟩, Option.bind_some]

theorem exists_of_struct? {b : Bool} (h : struct? b cs = some ((name, inside), rest)) :
    ∃ header, Header Text.isBlank name header ∧ '}' ∉ inside ∧
      cs = header ++ '{' :: (inside ++ '}' :: rest) := by
  simp only [struct?, typeName?, Option.bind_eq_bind, Option.bind_eq_some_iff, Option.pure_def, Option.some.injEq,
    Prod.exists, Prod.mk.injEq] at h
  obtain ⟨n, definition, ⟨cs₁, htype, cs₂, hgap₁, n', cs₃, hname, cs₄, hgap₂, rfl, rfl⟩, cs₅, hstruct, inside', rest',
    henclosed, ⟨rfl, rfl⟩, rfl⟩ := h
  obtain rfl := Text.after?_eq_some.1 htype
  obtain ⟨g₁, rfl, hg₁, hblank₁⟩ := exists_of_gap? hgap₁
  obtain ⟨rfl, hexported⟩ := exists_of_exported? hname
  obtain ⟨g₂, rfl, hg₂, hblank₂⟩ := exists_of_gap? hgap₂
  obtain rfl := Text.after?_eq_some.1 hstruct
  obtain ⟨g₃, hstrip, hblank₃⟩ := exists_stripLeft cs₅
  obtain ⟨hbraces, hinside⟩ := enclosed?_eq_some.1 henclosed
  refine ⟨_, ⟨hexported, g₁, g₂, g₃, hg₁, hg₂, hblank₁, hblank₂, hblank₃, rfl⟩, hinside, ?_⟩
  rw [hstrip, hbraces]
  simp only [List.append_assoc]
  rfl

/-! ### Where a header can start -/

theorem split_before {u v w : List Char} {c : Char} (h : u ++ v = rest ++ c :: w) :
    (∃ rest', rest = u ++ rest' ∧ v = rest' ++ c :: w) ∨ ∃ x, u = rest ++ c :: x ∧ w = x ++ v := by
  obtain ⟨mid, rfl, hv⟩ | ⟨mid, rfl, hmid⟩ := List.append_eq_append_iff.1 h
  · exact .inl ⟨mid, rfl, hv⟩
  · cases mid with
    | nil => exact .inl ⟨[], by simp, by simpa using hmid.symm⟩
    | cons d mid =>
      cases hmid
      exact .inr ⟨mid, rfl, rfl⟩

theorem eq_and_eq_of_append_cons {u u' v v' : List Char} {c : Char} (hu : c ∉ u) (hu' : c ∉ u')
    (h : u ++ c :: v = u' ++ c :: v') : u = u' ∧ v = v' := by
  obtain ⟨mid, rfl, hmid⟩ | ⟨x, rfl, -⟩ := split_before h
  · cases mid with
    | nil => exact ⟨by simp, (List.cons.inj hmid).2⟩
    | cons d mid =>
      obtain rfl : c = d := (List.cons.inj hmid).1
      exact absurd (by simp) hu'
  · exact absurd (by simp) hu

theorem split_before_gap {v w : List Char} {c : Char} (hgap : ∀ d ∈ gap, Text.isBlank d = true)
    (hc : Text.isBlank c = false) (h : gap ++ v = rest ++ c :: w) :
    ∃ rest', rest = gap ++ rest' ∧ v = rest' ++ c :: w := by
  refine (split_before h).resolve_right ?_
  rintro ⟨x, rfl, -⟩
  rw [hgap c (by simp)] at hc
  cases hc

theorem gap_struct_ne_gap_exported {g₁ g₂ : List Char} (hblank₁ : ∀ c ∈ g₁, Text.isBlank c = true)
    (hblank₂ : ∀ c ∈ g₂, Text.isBlank c = true) (hname : IsExportedName name) (tail tail' : List Char) :
    g₁ ++ (name ++ tail) ≠ g₂ ++ (structWord ++ tail') := by
  intro h
  have hstrip := congrArg Text.stripLeft h
  rw [stripLeft_append hblank₁ (not_isBlank_of_exported hname tail), stripLeft_append hblank₂ (by simp [structWord]; decide)] at hstrip
  have hs : 's' ≤ 'Z' := (head?_exported hname tail 's' (by rw [hstrip]; rfl)).2
  exact absurd hs (by decide)

/-- Behind a part of a name and a gap there is no further header. -/
theorem word_gap_struct_ne {x g₁ g₂ tail tail' : List Char} (hx : ∀ c ∈ x, Text.isWordChar c = true) (hg₂ : g₂ ≠ [])
    (hblank₂ : ∀ c ∈ g₂, Text.isBlank c = true) (hname : IsExportedName name) (hg₁ : g₁ ≠ [])
    (hblank₁ : ∀ c ∈ g₁, isSourceBlank c = true) :
    ['y', 'p', 'e'] ++ (g₁ ++ (name ++ tail)) ≠ x ++ (g₂ ++ (structWord ++ tail')) := by
  intro h
  have hgaps := gap_struct_ne_gap_exported (fun c hc => isBlank_of_isSourceBlank (hblank₁ c hc)) hblank₂ hname tail tail'
  obtain ⟨mid, rfl, hmid⟩ | ⟨mid, hype, hmid⟩ := List.append_eq_append_iff.1 h
  · cases mid with
    | nil => exact hgaps hmid
    | cons d mid =>
      -- the word would go on over the blank behind the keyword
      obtain ⟨b, g₁, rfl⟩ := List.exists_cons_of_ne_nil hg₁
      obtain rfl : b = d := (List.cons.inj hmid).1
      have hb := not_isWordChar_of_isSourceBlank (hblank₁ b (by simp))
      rw [hx b (by simp)] at hb
      cases hb
  · cases mid with
    | nil => exact hgaps hmid.symm
    | cons d mid =>
      -- the gap would start inside the keyword
      obtain ⟨b, g₂, rfl⟩ := List.exists_cons_of_ne_nil hg₂
      obtain rfl : b = d := (List.cons.inj hmid).1
      have hb : b ∈ ['y', 'p', 'e'] := by rw [hype]; simp
      have hkeyword : ['y', 'p', 'e'].all (!Text.isBlank ·) = true := by decide
      have hblank := List.all_eq_true.1 hkeyword b hb
      rw [hblank₂ b (by simp)] at hblank
      cases hblank

/-- A header that ends with another one starts where this starts. -/
theorem eq_nil_of_header_append {header header' other : List Char} (h : Header Text.isBlank other header)
    (h' : Header isSourceBlank name header') (heq : header = rest ++ header') : rest = [] := by
  obtain ⟨hother, g₁, g₂, g₃, -, hg₂, hblank₁, hblank₂, hblank₃, rfl⟩ := h
  obtain ⟨hname, k₁, k₂, k₃, hk₁, -, hkblank₁, -, -, rfl⟩ := h'
  have ht : Text.isBlank 't' = false := by decide
  -- token by token: the second header can start nowhere but at the keyword of the first
  rcases split_before heq with ⟨r₁, -, heq₁⟩ | ⟨x, htype, -⟩
  · obtain ⟨r₂, -, heq₂⟩ := split_before_gap hblank₁ ht heq₁
    rcases split_before heq₂ with ⟨r₃, -, heq₃⟩ | ⟨x, hsplit, htail⟩
    · obtain ⟨r₄, -, heq₄⟩ := split_before_gap hblank₂ ht heq₃
      rcases split_before heq₄ with ⟨r₅, -, heq₅⟩ | ⟨x, hstruct, htail⟩
      · have hmem : 't' ∈ g₃ := by
          rw [heq₅]
          simp
        rw [hblank₃ 't' hmem] at ht
        cases ht
      · have hmem : 'y' ∈ x ++ g₃ := by
          rw [← htail]
          simp
        rcases List.mem_append.1 hmem with hx | hg₃
        · have hword : 'y' ∈ structWord := by
            rw [hstruct]
            simp [hx]
          exact absurd hword (by decide)
        · exact absurd (hblank₃ 'y' hg₃) (by decide)
    · refine absurd htail (word_gap_struct_ne ?_ hg₂ hblank₂ hname hk₁ hkblank₁)
      obtain ⟨c, r, rfl, -, -, hr⟩ := hother
      intro d hd
      cases r₂ with
      | nil =>
        cases hsplit
        exact hr d hd
      | cons e r₂ =>
        cases hsplit
        exact hr d (by simp [hd])
  · cases rest with
    | nil => rfl
    | cons c rest =>
      have hmem : 't' ∈ ['y', 'p', 'e'] := by
        rw [(List.cons.inj htype).2]
        simp
      exact absurd hmem (by decide)

/-! ### Declared structs -/

theorem not_mem_header {header : List Char} (h : Header Text.isBlank name header) : '{' ∉ header := by
  obtain ⟨⟨c, r, rfl, -, hZ, hr⟩, g₁, g₂, g₃, -, -, hblank₁, hblank₂, hblank₃, rfl⟩ := h
  have hgap : ∀ g : List Char, (∀ c ∈ g, Text.isBlank c = true) → '{' ∉ g := fun g hg hmem =>
    absurd (hg '{' hmem) (by decide)
  have hc : '{' ≠ c := by
    rintro rfl
    exact absurd hZ (by decide)
  have hrest : '{' ∉ r := fun hmem => absurd (hr '{' hmem) (by decide)
  simp [typeWord, structWord, hgap g₁ hblank₁, hgap g₂ hblank₂, hgap g₃ hblank₃, hc, hrest]

theorem Header.toBlank {header : List Char} (h : Header isSourceBlank name header) : Header Text.isBlank name header := by
  obtain ⟨hname, g₁, g₂, g₃, hg₁, hg₂, hblank₁, hblank₂, hblank₃, rfl⟩ := h
  exact ⟨hname, g₁, g₂, g₃, hg₁, hg₂, fun c hc => isBlank_of_isSourceBlank (hblank₁ c hc),
    fun c hc => isBlank_of_isSourceBlank (hblank₂ c hc), fun c hc => isBlank_of_isSourceBlank (hblank₃ c hc), rfl⟩

/-- Every brace that a struct opens in a text is followed by a closing one there. -/
def StructsClosed (cs : List Char) : Prop :=
  ∀ front gap rest, cs = front ++ (structWord ++ (gap ++ '{' :: rest)) → (∀ c ∈ gap, Text.isBlank c = true) → '}' ∈ rest

/-- An exported struct in a source: its header, and its body up to the first closing brace. -/
structure Declaration (source : List Char) where
  before : List Char
  header : List Char
  name : List Char
  body : List Char
  after : List Char
  eq_append : source = before ++ (header ++ '{' :: (body ++ '}' :: after))
  isHeader : Header isSourceBlank name header
  closing_not_mem : '}' ∉ body
  structsClosed : StructsClosed before

/-- A reading that starts before a declaration ends before it. -/
theorem exists_of_struct?_before {front header tail tail' : List Char} {b : Bool} {found : List Char × List Char}
    (hclosed : StructsClosed front) (h : Header isSourceBlank name header) (hne : front ≠ [])
    (hread : struct? b (front ++ (header ++ '{' :: tail)) = some (found, tail')) :
    ∃ front', front' <:+ front ∧ front'.length < front.length ∧ tail' = front' ++ (header ++ '{' :: tail) := by
  obtain ⟨other, inside⟩ := found
  obtain ⟨header', hheader', hinside, heq⟩ := exists_of_struct? hread
  have hopen' := not_mem_header hheader'
  by_cases hfront : '{' ∈ front
  · -- the struct is opened before the declaration, and so it is closed there
    obtain ⟨u, v, rfl, hu⟩ := List.eq_append_cons_of_mem hfront
    rw [List.append_assoc, List.cons_append] at heq
    obtain ⟨rfl, hbody⟩ := eq_and_eq_of_append_cons hu hopen' heq
    have hclose : '}' ∈ v := by
      obtain ⟨-, g₁, g₂, g₃, -, -, -, -, hblank₃, rfl⟩ := hheader'
      exact hclosed (typeWord ++ (g₁ ++ (other ++ g₂))) g₃ v (by simp only [List.append_assoc]) hblank₃
    obtain ⟨w, front', rfl, hw⟩ := List.eq_append_cons_of_mem hclose
    rw [List.append_assoc, List.cons_append] at hbody
    obtain ⟨rfl, rfl⟩ := eq_and_eq_of_append_cons hw hinside hbody
    refine ⟨front', ⟨u ++ '{' :: (w ++ ['}']), by simp⟩, ?_, rfl⟩
    simp only [List.length_append, List.length_cons]
    omega
  · rw [← List.append_assoc] at heq
    have hopen : '{' ∉ front ++ header := by simp [hfront, not_mem_header h.toBlank]
    obtain ⟨hheaders, -⟩ := eq_and_eq_of_append_cons hopen hopen' heq
    exact absurd (eq_nil_of_header_append hheader' h hheaders.symm) hne

theorem StructsClosed.of_isSuffix {cs' : List Char} (h : StructsClosed cs) (hsuffix : cs' <:+ cs) : StructsClosed cs' := by
  rintro front gap rest rfl hgap
  obtain ⟨more, rfl⟩ := hsuffix
  exact h (more ++ front) gap rest (by simp only [List.append_assoc]) hgap

/-- A text in which no brace opens behind the last closing one leaves no struct open. -/
theorem structsClosed_append {as bs : List Char} (h : '{' ∉ bs) : StructsClosed (as ++ '}' :: bs) := by
  intro front gap rest heq hgap
  have heq' : as ++ '}' :: bs = (front ++ (structWord ++ gap)) ++ '{' :: rest := by rw [heq]; simp
  obtain ⟨mid, -, hmid⟩ | ⟨x, -, rfl⟩ := split_before heq'
  · have hmem : '{' ∈ '}' :: bs := by
      rw [hmid]
      simp
    simp [h] at hmem
  · simp

theorem mem_findAll_struct? {source : List Char} (d : Declaration source) :
    (d.name, d.body) ∈ Text.findAll struct? source := by
  obtain ⟨before, header, name, body, after, rfl, hheader, hbody, hclosed⟩ := d
  refine Text.mem_findFrom (struct?_text hheader hbody) (by simp) ?_ (Nat.le_refl _) true
  intro b front found tail hne hsuffix hread
  exact exists_of_struct?_before (hclosed.of_isSuffix hsuffix) hheader hne hread

end IssuePlanner.Outline.Package
