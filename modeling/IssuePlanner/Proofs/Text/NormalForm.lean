import IssuePlanner.Proofs.Text.LetterTables

/-! The normal form of a word is a word again (`IsWord.normalForm`): nothing that a character of a word stands for is a
blank or a sign. The parts of Korean syllables are computed, all others are read off the tables. -/

namespace IssuePlanner.Text

open Outline.Script.Lexer (isLetterLike)

variable {cs : List Char}

/-- A text of letters, digits, underscores and characters beyond ASCII. -/
def IsWord (cs : List Char) : Prop := ∀ c ∈ cs, isLetterLike c = true

theorem isWord_of_all (h : cs.all isLetterLike = true) : IsWord cs := List.all_eq_true.1 h

@[simp] theorem isWord_nil : IsWord [] := by simp [IsWord]

theorem isWord_cons {c : Char} : IsWord (c :: cs) ↔ isLetterLike c = true ∧ IsWord cs := List.forall_mem_cons

theorem isWord_append {ds : List Char} : IsWord (cs ++ ds) ↔ IsWord cs ∧ IsWord ds := List.forall_mem_append

theorem IsWord.perm {ds : List Char} (h : IsWord cs) (hperm : ds.Perm cs) : IsWord ds :=
  fun c hc => h c (hperm.mem_iff.1 hc)

/-! ### Looking characters up -/

theorem Expansion.isLetterCode_of_among {target code : Nat} {entries : List (List Char)} {codes : List Nat}
    (hentries : ∀ e ∈ entries, entryNamesLetters e = true) (h : among target code entries = some codes) :
    ∀ n ∈ codes, isLetterCode n = true := by
  induction entries generalizing code with
  | nil => cases h
  | cons e rest ih =>
    obtain ⟨he, hrest⟩ := List.forall_mem_cons.1 hentries
    unfold among at h
    split at h
    · rename_i first last hsplit
      have hrange := (isLetterRange_of_entry he hsplit).2
      dsimp only at h
      split_ifs at h with hlt
      · obtain rfl := Option.some.inj h
        have hle := le_of_isLetterRange hrange
        simp only [List.mem_singleton, forall_eq]
        exact isLetterCode_of_range hrange (Nat.le_add_right _ _) (by omega)
      · exact ih hrest h
    · rename_i hsplit
      split_ifs at h with htarget hdot
      · obtain rfl := Option.some.inj h
        simp only [List.mem_map, forall_exists_index, and_imp, forall_apply_eq_imp_iff₂]
        exact fun piece => isLetterCode_of_entry he (fun first last => hsplit first last) hdot
      · exact ih hrest h

theorem Expansion.isWord_listed {c : Char} {ds : List Char} (h : listed c = some ds) : IsWord ds := by
  obtain ⟨b, hb, h⟩ := Option.bind_eq_some_iff.1 h
  obtain ⟨codes, hcodes, h⟩ := Option.bind_eq_some_iff.1 h
  have hmem : b ∈ blocks := (List.takeWhile_prefix _).subset (List.mem_of_getLast? hb)
  have hentries : ∀ e ∈ b.rows.flatMap fun row => words row.toList, entryNamesLetters e = true := by
    intro e he
    obtain ⟨row, hrow, he⟩ := List.mem_flatMap.1 he
    exact entryNamesLetters_of_mem_words (rowNamesLetters_of_mem b hmem row hrow) he
  obtain rfl := Option.some.inj h
  intro d hd
  obtain ⟨n, hn, rfl⟩ := List.mem_map.1 hd
  exact isLetterCode_of_among hentries hcodes n hn

theorem Composite.isLetterLike_listed {a b d : Char} (h : listed a b = some d) : isLetterLike d = true := by
  obtain ⟨f, hf, h⟩ := Option.bind_eq_some_iff.1 h
  obtain ⟨e, he, h⟩ := List.exists_of_findSome?_eq_some h
  obtain ⟨row, hrow, he⟩ := List.mem_flatMap.1 he
  have hentry := entryNamesLetters_of_mem_words (rowNamesLetters_of_mem f (List.mem_of_find?_eq_some hf) row hrow) he
  split at h
  · rename_i first made hpieces
    split_ifs at h
    obtain rfl := Option.some.inj h
    have hrange (x y : List Char) (hsplit : splitOn '-' e = [x, y]) : False := by
      have hone := (isLetterRange_of_entry hentry hsplit).1
      rw [hpieces] at hone
      cases hone
    have hdot : e ≠ ['.'] := by
      rintro rfl
      cases hpieces
    exact isLetterCode_of_entry hentry hrange hdot (by rw [hpieces]; simp)
  · cases h

namespace Hangul

theorem isSyllable_iff {n : Nat} : isSyllable n = true ↔ firstSyllable ≤ n ∧ n < firstSyllable + 11172 := by
  rw [isSyllable, Bool.and_eq_true, decide_eq_true_eq, decide_eq_true_eq]
  exact Iff.rfl

theorem isLetterCode_of_mem_parts {n m : Nat} (h : isSyllable n = true) (hm : m ∈ parts n) : isLetterCode m = true := by
  obtain ⟨hfirst, hlast⟩ := isSyllable_iff.1 h
  have hparts : m = 0x1100 + (n - firstSyllable) / 588 ∨ m = 0x1161 + (n - firstSyllable) / 28 % 21 ∨
      m = 0x11a7 + (n - firstSyllable) % 28 := by
    rw [parts] at hm
    split_ifs at hm
    · simp only [List.mem_cons, List.not_mem_nil, or_false] at hm
      exact hm.imp_right .inl
    · simp only [List.mem_append, List.mem_cons, List.not_mem_nil, or_false] at hm
      exact or_assoc.1 hm
  have hleading : (n - firstSyllable) / 588 < 19 := by omega
  exact isLetterCode_of_le (by omega) (by omega)

theorem isLetterCode_together {a b n : Nat} (h : together? a b = some n) : isLetterCode n = true := by
  have hfirst : firstSyllable = 0xac00 := rfl
  rw [together?] at h
  split_ifs at h with hopen hclosed
  · obtain rfl := Option.some.inj h
    simp only [Bool.and_eq_true, decide_eq_true_eq] at hopen
    have hleading : a - firstLeading < 19 := by
      have : leadings = 19 := rfl
      omega
    have hvowel : b - firstVowel < 21 := by
      have : vowels = 21 := rfl
      omega
    change isLetterCode (firstSyllable + ((a - firstLeading) * 21 + (b - firstVowel)) * 28) = true
    exact isLetterCode_of_le (by omega) (by omega)
  · obtain rfl := Option.some.inj h
    simp only [Bool.and_eq_true, decide_eq_true_eq, isSyllable_iff] at hclosed
    have htrailings : trailings = 28 := rfl
    exact isLetterCode_of_le (by omega) (by omega)

end Hangul

theorem isWord_expand {c : Char} (hc : isLetterLike c = true) : IsWord (expand c) := by
  rw [expand]
  split_ifs with hascii hsyllable
  · simpa [IsWord] using hc
  · intro d hd
    obtain ⟨n, hn, rfl⟩ := List.mem_map.1 hd
    exact Hangul.isLetterCode_of_mem_parts hsyllable hn
  · cases hlisted : Expansion.listed c with
    | none => simpa [IsWord] using hc
    | some ds => exact Expansion.isWord_listed hlisted

theorem isLetterLike_composite {a b d : Char} (h : composite? a b = some d) : isLetterLike d = true := by
  rw [composite?, Option.or_eq_some_iff] at h
  rcases h with h | ⟨-, h⟩
  · obtain ⟨n, hn, rfl⟩ := Option.map_eq_some_iff.1 h
    exact Hangul.isLetterCode_together hn
  · exact Composite.isLetterLike_listed h

/-! ### Putting characters together -/

theorem isWord_composeFrom {start : Char} {passed : List Char} (hstart : isLetterLike start = true)
    (hpassed : IsWord passed) (hcs : IsWord cs) : IsWord (composeFrom start passed cs) := by
  induction cs generalizing start passed with
  | nil => exact isWord_cons.2 ⟨hstart, hpassed.perm (List.reverse_perm _)⟩
  | cons c r ih =>
    obtain ⟨hc, hr⟩ := isWord_cons.1 hcs
    rw [composeFrom]
    split
    · rename_i d hd
      have hcomposite : composite? start c = some d := by
        split_ifs at hd
        exact hd
      exact ih (isLetterLike_composite hcomposite) hpassed hr
    · split_ifs
      · exact isWord_cons.2 ⟨hstart, isWord_append.2 ⟨hpassed.perm (List.reverse_perm _), ih hc isWord_nil hr⟩⟩
      · exact ih hstart (isWord_cons.2 ⟨hc, hpassed⟩) hr

theorem IsWord.normalForm (h : IsWord cs) : IsWord (normalForm cs) := by
  rw [Text.normalForm]
  split_ifs
  · exact h
  · have hexpanded : IsWord (cs.flatMap expand) := by
      intro d hd
      obtain ⟨c, hc, hd⟩ := List.mem_flatMap.1 hd
      exact isWord_expand (h c hc) d hd
    have hordered := hexpanded.perm (orderMarks_perm (cs.flatMap expand))
    cases hmarks : orderMarks (cs.flatMap expand) with
    | nil => exact isWord_nil
    | cons c r =>
      obtain ⟨hc, hr⟩ := isWord_cons.1 (hmarks ▸ hordered)
      exact isWord_composeFrom hc isWord_nil hr

end IssuePlanner.Text
