import IssuePlanner.Proofs.Text.Lines
import Mathlib.Algebra.Order.BigOperators.Group.List
import Mathlib.Algebra.Order.Ring.Nat

/-! The words of a text. A blank between two texts separates their words (`words_append_cons`), so the words of a text
are those of its lines. A text is squeezed when its words stand with one space between any two of them. What starts with
no blank is squeezed on its own behind another text, after the space that this one leaves (`squeezed_append`). -/

namespace IssuePlanner.Text

variable {c : Char} {cs as bs pat : List Char}

/-! ### Joined texts -/

theorem length_joinWith (sep : List Char) (parts : List (List Char)) :
    (joinWith sep parts).length = (parts.map fun p => p.length + sep.length).sum - sep.length := by
  induction parts with
  | nil => simp [joinWith]
  | cons p parts ih =>
    cases parts with
    | nil => simp [joinWith_singleton]
    | cons q parts =>
      rw [joinWith_cons_cons, List.length_append, List.length_append, ih]
      simp only [List.map_cons, List.sum_cons]
      omega

theorem count_joinWith {sep : List Char} (hsep : c ∉ sep) (parts : List (List Char)) :
    (joinWith sep parts).count c = (parts.map fun p => p.count c).sum := by
  induction parts with
  | nil => rfl
  | cons p parts ih =>
    cases parts with
    | nil => simp [joinWith_singleton]
    | cons q parts =>
      rw [joinWith_cons_cons, List.count_append, List.count_append, List.count_eq_zero.2 hsep, ih, Nat.zero_add]
      simp only [List.map_cons, List.sum_cons]

/-! ### Lines -/

theorem isInfix_joinWith_of_mem {sep q : List Char} {parts : List (List Char)} (h : q ∈ parts) :
    q <:+: joinWith sep parts := by
  induction parts with
  | nil => cases h
  | cons p parts ih =>
    cases parts with
    | nil =>
      obtain rfl := List.mem_singleton.1 h
      exact ⟨[], [], by simp [joinWith_singleton]⟩
    | cons r parts =>
      rw [joinWith_cons_cons]
      rcases List.mem_cons.1 h with rfl | h
      · exact (List.prefix_append _ _).isInfix
      · exact ((ih h).trans (List.suffix_append _ _).isInfix).trans (List.suffix_append _ _).isInfix

theorem isInfix_of_mem_splitOn {sep : Char} {q : List Char} (h : q ∈ splitOn sep cs) : q <:+: cs := by
  rw [← joinWith_splitOn sep cs]
  exact isInfix_joinWith_of_mem h

/-- A text without the separator behind another one goes into its last piece. -/
theorem splitOn_append_of_not_mem {sep : Char} {last : List Char} {init : List (List Char)}
    (has : splitOn sep as = init ++ [last]) (hbs : sep ∉ bs) : splitOn sep (as ++ bs) = init ++ [last ++ bs] := by
  induction bs generalizing as last with
  | nil => simpa using has
  | cons b bs ih =>
    obtain ⟨hb, hrest⟩ := not_or.1 (mt List.mem_cons.2 hbs)
    obtain ⟨ps, q, hps, hconcat⟩ := splitOn_concat sep b as
    obtain ⟨rfl, hlast⟩ := List.append_inj' (hps.symm.trans has) rfl
    cases hlast
    rw [if_neg (Ne.symm hb)] at hconcat
    rw [List.append_cons, ih hconcat hrest, List.append_assoc, List.singleton_append]

/-! ### Pieces between blanks -/

/-- The pieces of a text between its blanks, empty ones too. -/
def blankPieces (cs : List Char) : List (List Char) :=
  cs.foldr (fun c ps => if isBlank c then [] :: ps else consPiece c ps) [[]]

theorem words_eq_filter (cs : List Char) : words cs = (blankPieces cs).filter (· ≠ []) := by
  rw [words, blankPieces]

theorem blankPieces_cons (c : Char) (cs : List Char) :
    blankPieces (c :: cs) = if isBlank c then [] :: blankPieces cs else consPiece c (blankPieces cs) := by
  rw [blankPieces, List.foldr_cons, ← blankPieces]

theorem blankPieces_ne_nil (cs : List Char) : blankPieces cs ≠ [] := by
  cases cs with
  | nil => simp [blankPieces]
  | cons c cs =>
    rw [blankPieces_cons]
    split
    · simp
    · cases blankPieces cs <;> simp [consPiece]

theorem blankPieces_append_cons (hc : isBlank c = true) (as bs : List Char) :
    blankPieces (as ++ c :: bs) = blankPieces as ++ blankPieces bs := by
  induction as with
  | nil =>
    rw [List.nil_append, blankPieces_cons, if_pos hc]
    rfl
  | cons d as ih =>
    rw [List.cons_append, blankPieces_cons, ih, blankPieces_cons]
    split_ifs
    · rfl
    · exact consPiece_append (blankPieces_ne_nil as) d _

theorem isPrefix_and_isInfix_of_blankPieces {p : List Char} {ps : List (List Char)} (h : blankPieces cs = p :: ps) :
    p <+: cs ∧ ∀ q ∈ ps, q <:+: cs := by
  induction cs generalizing p ps with
  | nil =>
    cases h
    simp
  | cons c cs ih =>
    obtain ⟨q, qs, hq⟩ := List.exists_cons_of_ne_nil (blankPieces_ne_nil cs)
    obtain ⟨hfirst, hothers⟩ := ih hq
    rw [blankPieces_cons, hq] at h
    split_ifs at h
    · cases h
      refine ⟨List.nil_prefix, fun r hr => List.infix_cons ?_⟩
      rcases List.mem_cons.1 hr with rfl | hr
      · exact hfirst.isInfix
      · exact hothers r hr
    · cases h
      exact ⟨List.cons_prefix_cons.2 ⟨rfl, hfirst⟩, fun r hr => List.infix_cons (hothers r hr)⟩

/-! ### Words -/

theorem ne_nil_of_mem_words {w : List Char} (h : w ∈ words cs) : w ≠ [] := by
  rw [words_eq_filter, List.mem_filter] at h
  simpa using h.2

theorem isInfix_of_mem_words {w : List Char} (h : w ∈ words cs) : w <:+: cs := by
  obtain ⟨p, ps, hp⟩ := List.exists_cons_of_ne_nil (blankPieces_ne_nil cs)
  obtain ⟨hfirst, hothers⟩ := isPrefix_and_isInfix_of_blankPieces hp
  rw [words_eq_filter, List.mem_filter, hp] at h
  rcases List.mem_cons.1 h.1 with rfl | hw
  · exact hfirst.isInfix
  · exact hothers w hw

theorem not_blank_of_mem_blankPieces {p : List Char} (h : p ∈ blankPieces cs) : ∀ c ∈ p, isBlank c = false := by
  induction cs generalizing p with
  | nil =>
    obtain rfl := List.mem_singleton.1 h
    simp
  | cons c cs ih =>
    rw [blankPieces_cons] at h
    split_ifs at h with hc
    · rcases List.mem_cons.1 h with rfl | h
      · simp
      · exact ih h
    · obtain ⟨q, qs, hq⟩ := List.exists_cons_of_ne_nil (blankPieces_ne_nil cs)
      rw [hq] at h ih
      rcases List.mem_cons.1 h with rfl | h
      · intro d hd
        rcases List.mem_cons.1 hd with rfl | hd
        · simpa using hc
        · exact ih List.mem_cons_self d hd
      · exact ih (List.mem_cons_of_mem _ h)

theorem not_blank_of_mem_words {w : List Char} (h : w ∈ words cs) : ∀ c ∈ w, isBlank c = false :=
  not_blank_of_mem_blankPieces (List.mem_of_mem_filter h)

theorem words_append_cons (hc : isBlank c = true) (as bs : List Char) :
    words (as ++ c :: bs) = words as ++ words bs := by
  rw [words_eq_filter, blankPieces_append_cons hc, List.filter_append]
  rfl

theorem words_cons_of_blank (hc : isBlank c = true) (cs : List Char) : words (c :: cs) = words cs :=
  words_append_cons hc [] cs

theorem words_cons_of_head_blank (hc : isBlank c = false) (hcs : ∀ d ∈ cs.head?, isBlank d = true) :
    words (c :: cs) = [c] :: words cs := by
  cases cs with
  | nil => simp [words, hc, consPiece]
  | cons d cs =>
    have hd : isBlank d = true := hcs d rfl
    rw [words_cons_of_blank hd, ← List.singleton_append, words_append_cons hd [c] cs]
    simp [words, hc, consPiece]

theorem words_cons_cons {d : Char} (hc : isBlank c = false) (hd : isBlank d = false) (cs : List Char) :
    words (c :: d :: cs) = consPiece c (words (d :: cs)) := by
  obtain ⟨p, ps, hp⟩ := List.exists_cons_of_ne_nil (blankPieces_ne_nil cs)
  simp [words_eq_filter, blankPieces_cons, hc, hd, hp, consPiece]

theorem words_eq_nil_iff : words cs = [] ↔ ∀ c ∈ cs, isBlank c = true := by
  induction cs with
  | nil => simp [words]
  | cons c cs ih =>
    by_cases hc : isBlank c = true
    · rw [words_cons_of_blank hc, ih]
      simp [hc]
    · obtain ⟨p, ps, hp⟩ := List.exists_cons_of_ne_nil (blankPieces_ne_nil cs)
      simp [words_eq_filter, blankPieces_cons, hc, hp, consPiece]

theorem words_ne_nil_of_mem (h : c ∈ cs) (hc : isBlank c = false) : words cs ≠ [] := by
  intro hnil
  rw [words_eq_nil_iff.1 hnil c h] at hc
  cases hc

theorem words_joinWith_newline (ls : List (List Char)) : words (joinWith ['\n'] ls) = ls.flatMap words := by
  induction ls with
  | nil => rfl
  | cons l ls ih =>
    cases ls with
    | nil => rw [joinWith_singleton, List.flatMap_singleton]
    | cons m ls =>
      rw [joinWith_cons_cons, List.singleton_append, words_append_cons (by decide), ih]
      rfl

/-! ### Squeezed texts -/

/-- A text with one space in place of each run of blanks, and none at its ends. -/
def squeezed (cs : List Char) : List Char := joinWith [' '] (words cs)

/-- The space that a text leaves in front of what follows it. -/
def gapAfter (cs : List Char) : List Char :=
  if words cs ≠ [] ∧ cs.getLast?.any isBlank = true then [' '] else []

theorem squeezed_cons_of_blank (hc : isBlank c = true) (cs : List Char) : squeezed (c :: cs) = squeezed cs := by
  rw [squeezed, words_cons_of_blank hc, squeezed]

theorem squeezed_cons_cons {d : Char} (hc : isBlank c = false) (hd : isBlank d = false) (cs : List Char) :
    squeezed (c :: d :: cs) = c :: squeezed (d :: cs) := by
  obtain ⟨w, ws, hw⟩ := List.exists_cons_of_ne_nil (words_ne_nil_of_mem List.mem_cons_self hd : words (d :: cs) ≠ [])
  rw [squeezed, words_cons_cons hc hd, squeezed, hw, consPiece]
  cases ws with
  | nil => rw [joinWith_singleton, joinWith_singleton]
  | cons v ws => rw [joinWith_cons_cons, joinWith_cons_cons, List.cons_append]

theorem squeezed_cons_blank {d : Char} (hc : isBlank c = false) (hd : isBlank d = true) (hcs : words cs ≠ []) :
    squeezed (c :: d :: cs) = c :: ' ' :: squeezed cs := by
  obtain ⟨w, ws, hw⟩ := List.exists_cons_of_ne_nil hcs
  rw [squeezed, words_cons_of_head_blank hc (by simpa using hd), words_cons_of_blank hd, hw, joinWith_cons_cons,
    squeezed, hw]
  rfl

theorem exists_squeezed_cons (hc : isBlank c = false) (cs : List Char) : ∃ more, squeezed (c :: cs) = c :: more := by
  by_cases hcs : ∀ d ∈ cs.head?, isBlank d = true
  · rw [squeezed, words_cons_of_head_blank hc hcs]
    cases words cs with
    | nil => exact ⟨[], joinWith_singleton ..⟩
    | cons w ws => exact ⟨_, joinWith_cons_cons ..⟩
  · cases cs with
    | nil => simp at hcs
    | cons d cs => exact ⟨_, squeezed_cons_cons hc (by simpa using hcs) cs⟩

theorem squeezed_append_of_not_blank {d : Char} (hlast : as.getLast? = some d) (hd : isBlank d = false)
    (hhead : bs.head? = some c) (hc : isBlank c = false) : squeezed (as ++ bs) = squeezed as ++ squeezed bs := by
  obtain ⟨rest, rfl⟩ := List.head?_eq_some_iff.1 hhead
  induction as with
  | nil => cases hlast
  | cons e as ih =>
    cases as with
    | nil =>
      obtain rfl : e = d := by simpa using hlast
      rw [List.singleton_append, squeezed_cons_cons hd hc]
      simp [squeezed, words, hd, consPiece, joinWith_singleton]
    | cons f as =>
      rw [List.getLast?_cons_cons] at hlast
      have htail := ih hlast
      cases he : isBlank e with
      | true => rw [List.cons_append, squeezed_cons_of_blank he, squeezed_cons_of_blank he, htail]
      | false =>
        cases hf : isBlank f with
        | true =>
          -- the word that the two texts meet in is behind this blank
          have hmem : d ∈ as := by
            refine (List.mem_cons.1 (List.mem_of_getLast? hlast)).resolve_left ?_
            rintro rfl
            rw [hf] at hd
            cases hd
          have has : words as ≠ [] := words_ne_nil_of_mem hmem hd
          have happend : words (as ++ c :: rest) ≠ [] := words_ne_nil_of_mem (List.mem_append_left _ hmem) hd
          rw [List.cons_append, squeezed_cons_of_blank hf, squeezed_cons_of_blank hf] at htail
          rw [List.cons_append, List.cons_append, squeezed_cons_blank he hf happend, squeezed_cons_blank he hf has, htail]
          rfl
        | false =>
          rw [List.cons_append] at htail
          rw [List.cons_append, List.cons_append, squeezed_cons_cons he hf, squeezed_cons_cons he hf, htail]
          rfl

/-- What starts with no blank is squeezed on its own, behind the space that the text before it leaves. -/
theorem squeezed_append (as : List Char) (hhead : bs.head? = some c) (hc : isBlank c = false) :
    squeezed (as ++ bs) = squeezed as ++ (gapAfter as ++ squeezed bs) := by
  cases hlast : as.getLast? with
  | none =>
    rw [List.getLast?_eq_none_iff.1 hlast]
    rfl
  | some d =>
    cases hd : isBlank d with
    | false =>
      rw [gapAfter, hlast, if_neg (by simp [hd]), List.nil_append, squeezed_append_of_not_blank hlast hd hhead hc]
    | true =>
      obtain ⟨front, rfl⟩ := List.getLast?_eq_some_iff.1 hlast
      have hfront : words (front ++ [d]) = words front := by
        rw [words_append_cons hd, show words [] = [] from rfl, List.append_nil]
      have hbs : words bs ≠ [] := words_ne_nil_of_mem (List.mem_of_head? hhead) hc
      rw [gapAfter, hlast, hfront, squeezed, squeezed, hfront, List.append_assoc, List.singleton_append,
        words_append_cons hd]
      by_cases hwords : words front = []
      · rw [if_neg (by simp [hwords]), hwords]
        rfl
      · rw [if_pos (by simp [hwords, hd]), joinWith_append hwords hbs, squeezed]

/-! ### What stands in a squeezed text -/

theorem isInfix_append_cons (h : pat <:+: as ++ c :: bs) (hc : c ∉ pat) : pat <:+: as ∨ pat <:+: bs := by
  obtain ⟨front, back, heq⟩ := h
  rw [List.append_assoc] at heq
  obtain ⟨mid, rfl, hmid⟩ | ⟨mid, rfl, hmid⟩ := List.append_eq_append_iff.1 heq
  · obtain ⟨rest, rfl, -⟩ | ⟨rest, rfl, hrest⟩ := List.append_eq_append_iff.1 hmid
    · exact .inl ⟨front, rest, List.append_assoc ..⟩
    · cases rest with
      | nil => exact .inl ⟨front, [], by simp⟩
      | cons d rest =>
        cases hrest
        exact absurd (by simp) hc
  · cases mid with
    | nil =>
      cases pat with
      | nil => exact .inl List.nil_infix
      | cons d pat =>
        cases hmid
        exact absurd List.mem_cons_self hc
    | cons d mid =>
      cases hmid
      exact .inr ⟨mid, back, List.append_assoc ..⟩

theorem exists_isInfix_of_joinWith (hne : pat ≠ []) (hc : c ∉ pat) {parts : List (List Char)}
    (h : pat <:+: joinWith [c] parts) : ∃ q ∈ parts, pat <:+: q := by
  induction parts with
  | nil => exact absurd (List.infix_nil.1 h) hne
  | cons q parts ih =>
    cases parts with
    | nil => exact ⟨q, by simp, by rwa [joinWith_singleton] at h⟩
    | cons r parts =>
      rw [joinWith_cons_cons, List.singleton_append] at h
      rcases isInfix_append_cons h hc with hq | hrest
      · exact ⟨q, by simp, hq⟩
      · obtain ⟨p, hp, hpat⟩ := ih hrest
        exact ⟨p, List.mem_cons_of_mem _ hp, hpat⟩

/-- A text without spaces that stands in a squeezed text stands in the text itself. -/
theorem isInfix_of_squeezed (hne : pat ≠ []) (hspace : ' ' ∉ pat) (h : pat <:+: squeezed cs) : pat <:+: cs := by
  obtain ⟨w, hw, hpat⟩ := exists_isInfix_of_joinWith hne hspace h
  exact hpat.trans (isInfix_of_mem_words hw)

theorem joinWith_eq_nil_iff {sep : List Char} {parts : List (List Char)} (h : ∀ q ∈ parts, q ≠ []) :
    joinWith sep parts = [] ↔ parts = [] := by
  cases parts with
  | nil => exact iff_of_true rfl rfl
  | cons q parts =>
    have hq : q ≠ [] := h q (by simp)
    cases parts with
    | nil => simp [joinWith_singleton, hq]
    | cons r parts => simp [joinWith_cons_cons, hq]

theorem ends_joinWith {sep : List Char} {parts : List (List Char)} (h : ∀ q ∈ parts, q ≠ []) :
    (∀ c ∈ (joinWith sep parts).head?, ∃ q ∈ parts, c ∈ q) ∧ ∀ c ∈ (joinWith sep parts).getLast?, ∃ q ∈ parts, c ∈ q := by
  induction parts with
  | nil => simp [joinWith]
  | cons q parts ih =>
    have hq : q ≠ [] := h q (by simp)
    cases parts with
    | nil =>
      rw [joinWith_singleton]
      exact ⟨fun c hc => ⟨q, by simp, List.mem_of_head? hc⟩, fun c hc => ⟨q, by simp, List.mem_of_getLast? hc⟩⟩
    | cons r parts =>
      have htail : joinWith sep (r :: parts) ≠ [] := by
        rw [ne_eq, joinWith_eq_nil_iff fun p hp => h p (by simp [hp])]
        simp
      rw [joinWith_cons_cons]
      constructor
      · intro c hc
        rw [List.head?_append_of_ne_nil _ hq] at hc
        exact ⟨q, by simp, List.mem_of_head? hc⟩
      · intro c hc
        rw [← List.append_assoc, List.getLast?_append_of_ne_nil _ htail] at hc
        obtain ⟨p, hp, hmem⟩ := (ih fun p hp => h p (by simp [hp])).2 c hc
        exact ⟨p, List.mem_cons_of_mem _ hp, hmem⟩

theorem not_blank_of_head?_squeezed (h : (squeezed cs).head? = some c) : isBlank c = false := by
  obtain ⟨w, hw, hc⟩ := (ends_joinWith fun _ => ne_nil_of_mem_words).1 c h
  exact not_blank_of_mem_words hw c hc

theorem not_blank_of_getLast?_squeezed (h : (squeezed cs).getLast? = some c) : isBlank c = false := by
  obtain ⟨w, hw, hc⟩ := (ends_joinWith fun _ => ne_nil_of_mem_words).2 c h
  exact not_blank_of_mem_words hw c hc

theorem mem_of_mem_squeezed (h : c ∈ squeezed cs) : c = ' ' ∨ c ∈ cs := by
  rcases mem_joinWith h with hspace | ⟨w, hw, hc⟩
  · exact .inl (List.mem_singleton.1 hspace)
  · exact .inr ((isInfix_of_mem_words hw).subset hc)

/-- Parts may be joined in groups first, if groups without a part are left out. -/
theorem joinWith_flatten {sep : List Char} {groups : List (List (List Char))} (h : ∀ g ∈ groups, ∀ q ∈ g, q ≠ []) :
    joinWith sep groups.flatten = joinWith sep ((groups.map (joinWith sep)).filter (· ≠ [])) := by
  induction groups with
  | nil => rfl
  | cons g groups ih =>
    have hg : joinWith sep g = [] ↔ g = [] := joinWith_eq_nil_iff (h g (by simp))
    have hrest := ih fun g' hg' => h g' (by simp [hg'])
    have hflat : ∀ q ∈ groups.flatten, q ≠ [] := by
      intro q hq
      obtain ⟨g', hg', hq⟩ := List.mem_flatten.1 hq
      exact h g' (by simp [hg']) q hq
    rw [List.flatten_cons, List.map_cons]
    by_cases hempty : g = []
    · rw [List.filter_cons_of_neg (by simpa using hg.2 hempty), hempty, List.nil_append, hrest]
    · rw [List.filter_cons_of_pos (by simpa [hg] using hempty)]
      by_cases hnone : groups.flatten = []
      · rw [hnone, show joinWith sep [] = [] from rfl, eq_comm, joinWith_eq_nil_iff (by simp)] at hrest
        rw [hnone, List.append_nil, hrest, joinWith_singleton]
      · have hsome : (groups.map (joinWith sep)).filter (· ≠ []) ≠ [] := by
          intro hnil
          rw [hnil, show joinWith sep [] = [] from rfl, joinWith_eq_nil_iff hflat] at hrest
          exact hnone hrest
        rw [joinWith_append hempty hnone, hrest, ← List.singleton_append, joinWith_append (by simp) hsome,
          joinWith_singleton]

theorem squeezed_eq_lines (cs : List Char) :
    squeezed cs = joinWith [' '] (((splitOn '\n' cs).map squeezed).filter (· ≠ [])) := by
  have hwords : words cs = ((splitOn '\n' cs).map words).flatten := by
    conv_lhs => rw [← joinWith_splitOn '\n' cs, words_joinWith_newline]
    exact List.flatMap_def ..
  have hgroups : ∀ g ∈ (splitOn '\n' cs).map words, ∀ w ∈ g, w ≠ [] := by
    intro g hg w hw
    obtain ⟨l, -, rfl⟩ := List.mem_map.1 hg
    exact ne_nil_of_mem_words hw
  rw [squeezed, hwords, joinWith_flatten hgroups, List.map_map]
  rfl

end IssuePlanner.Text
