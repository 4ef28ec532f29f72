import IssuePlanner.Proofs.Text.Pieces

/-! The lines of a text that is put together. A line feed between two texts separates their lines, except that it may add
an empty one (`filter_lines_append`). No line has a line end in it, so lines that were joined by line feeds can be told
apart again (`splitOn_joinWith`). -/

namespace IssuePlanner.Text

theorem joinWith_singleton (sep q : List Char) : joinWith sep [q] = q := by simp [joinWith, List.intercalate]

theorem joinWith_cons_cons (sep q r : List Char) (parts : List (List Char)) :
    joinWith sep (q :: r :: parts) = q ++ (sep ++ joinWith sep (r :: parts)) := by
  simp [joinWith, List.intercalate]

theorem joinWith_append {sep : List Char} {as bs : List (List Char)} (has : as ≠ []) (hbs : bs ≠ []) :
    joinWith sep (as ++ bs) = joinWith sep as ++ (sep ++ joinWith sep bs) := by
  obtain ⟨b, bs, rfl⟩ := List.exists_cons_of_ne_nil hbs
  induction as with
  | nil => exact absurd rfl has
  | cons a as ih =>
    cases as with
    | nil => rw [joinWith_singleton, List.singleton_append, joinWith_cons_cons]
    | cons c as =>
      have htail := ih (by simp)
      rw [List.cons_append] at htail
      rw [List.cons_append, List.cons_append, joinWith_cons_cons, htail, joinWith_cons_cons]
      simp only [List.append_assoc]

/-! ### Lines one character at a time -/

theorem fst_foldr_step (cs : List Char) : (cs.foldr lines.step (none, [])).1 = cs.head? := by
  cases cs with
  | nil => rfl
  | cons c cs =>
    rw [List.foldr_cons, lines.step]
    split_ifs <;> rfl

theorem lines_cons (c : Char) (cs : List Char) :
    lines (c :: cs) = if c = '\r' ∧ cs.head? = some '\n' then lines cs
      else if isLineEnd c = true then [] :: lines cs else consPiece c (lines cs) := by
  rw [← fst_foldr_step]
  unfold lines
  rw [List.foldr_cons, lines.step]
  split_ifs <;> rfl

theorem lines_nil : lines [] = [] := rfl

theorem lines_ne_nil {cs : List Char} (h : cs ≠ []) : lines cs ≠ [] := by
  induction cs with
  | nil => exact absurd rfl h
  | cons c cs ih =>
    rw [lines_cons]
    split_ifs with hreturn hend
    · refine ih ?_
      rintro rfl
      cases hreturn.2
    · simp
    · cases lines cs <;> simp [consPiece]

theorem consPiece_append {ls : List (List Char)} (h : ls ≠ []) (c : Char) (rest : List (List Char)) :
    consPiece c (ls ++ rest) = consPiece c ls ++ rest := by
  cases ls with
  | nil => exact absurd rfl h
  | cons l ls => rfl

/-- A line feed between two texts ends a line of its own only if the first text is empty or ends with a line end. -/
theorem lines_append_newline (as bs : List Char) :
    ∃ gap, (gap = [] ∨ gap = [[]]) ∧ lines (as ++ '\n' :: bs) = lines as ++ gap ++ lines bs := by
  have hfeed : isLineEnd '\n' = true := by decide
  induction as with
  | nil => exact ⟨[[]], .inr rfl, by simp [lines_cons, lines_nil, hfeed]⟩
  | cons c as ih =>
    cases as with
    | nil =>
      rw [List.cons_append, List.nil_append, lines_cons, lines_cons, lines_cons]
      by_cases hreturn : c = '\r'
      · exact ⟨[], .inl rfl, by simp [hreturn, hfeed, lines_nil, show isLineEnd '\r' = true by decide]⟩
      · by_cases hend : isLineEnd c = true
        · exact ⟨[[]], .inr rfl, by simp [hreturn, hend, hfeed, lines_nil]⟩
        · exact ⟨[], .inl rfl, by simp [hreturn, hend, hfeed, lines_nil, consPiece]⟩
    | cons d as =>
      obtain ⟨gap, hgap, hlines⟩ := ih
      refine ⟨gap, hgap, ?_⟩
      rw [List.cons_append, lines_cons, hlines, lines_cons c (d :: as)]
      have hhead : (d :: as ++ '\n' :: bs).head? = (d :: as).head? := rfl
      rw [hhead]
      split_ifs
      · rfl
      · rfl
      · rw [List.append_assoc, consPiece_append (lines_ne_nil (by simp)), List.append_assoc]

section Filter

variable {p : List Char → Bool}

theorem filter_lines_append (hp : p [] = false) (as bs : List Char) :
    (lines (as ++ '\n' :: bs)).filter p = (lines as).filter p ++ (lines bs).filter p := by
  obtain ⟨gap, hgap, hlines⟩ := lines_append_newline as bs
  rw [hlines, List.filter_append, List.filter_append]
  rcases hgap with rfl | rfl
  · simp
  · simp [hp]

theorem filter_lines_joinWith (hp : p [] = false) (parts : List (List Char)) :
    (lines (joinWith ['\n'] parts)).filter p = parts.flatMap fun q => (lines q).filter p := by
  induction parts with
  | nil => rfl
  | cons q parts ih =>
    cases parts with
    | nil => rw [joinWith_singleton, List.flatMap_singleton]
    | cons r parts =>
      rw [joinWith_cons_cons, List.singleton_append, filter_lines_append hp, ih]
      rfl

end Filter

/-- A text without line ends, by a check that can be run. -/
theorem isLineEnd_of_all {cs : List Char} (h : cs.all (!isLineEnd ·) = true) : ∀ c ∈ cs, isLineEnd c = false := by
  intro c hc
  simpa using List.all_eq_true.1 h c hc

theorem isLineEnd_of_mem_lines {cs l : List Char} (h : l ∈ lines cs) : ∀ c ∈ l, isLineEnd c = false := by
  induction cs generalizing l with
  | nil => cases h
  | cons c cs ih =>
    rw [lines_cons] at h
    split_ifs at h with hreturn hend
    · exact ih h
    · rcases List.mem_cons.1 h with rfl | h
      · simp
      · exact ih h
    · cases hlines : lines cs with
      | nil =>
        rw [hlines] at h
        obtain rfl := List.mem_singleton.1 h
        simpa using hend
      | cons first rest =>
        rw [hlines] at h ih
        rcases List.mem_cons.1 h with rfl | h
        · intro d hd
          rcases List.mem_cons.1 hd with rfl | hd
          · simpa using hend
          · exact ih (by simp) d hd
        · exact ih (List.mem_cons_of_mem _ h)

/-- A text without line ends in front of another one goes into its first line. -/
theorem lines_append_of_forall {as : List Char} (h : ∀ c ∈ as, isLineEnd c = false) (hne : as ≠ []) (bs : List Char) :
    lines (as ++ bs) = (as ++ (lines bs).headD []) :: (lines bs).tail := by
  induction as with
  | nil => exact absurd rfl hne
  | cons c as ih =>
    have hc : isLineEnd c = false := h c (by simp)
    have hreturn : c ≠ '\r' := by
      rintro rfl
      exact absurd hc (by decide)
    rw [List.cons_append, lines_cons, if_neg (fun hr => hreturn hr.1), if_neg (by simp [hc])]
    by_cases has : as = []
    · subst has
      rw [List.nil_append]
      cases lines bs <;> rfl
    · rw [ih (fun d hd => h d (by simp [hd])) has]
      rfl

theorem lines_of_forall {cs : List Char} (h : ∀ c ∈ cs, isLineEnd c = false) (hne : cs ≠ []) : lines cs = [cs] := by
  have hlines := lines_append_of_forall h hne []
  rwa [List.append_nil, lines_nil, List.headD_nil, List.append_nil, List.tail_nil] at hlines

/-! ### Lines of a trimmed text -/

/-- Lines with one more character at their end: it ends a line, opens one or goes into the last one. -/
def Lengthened (c : Char) (ls ls' : List (List Char)) : Prop :=
  ls' = ls ∨ ls' = ls ++ [[]] ∨ ls' = ls ++ [[c]] ∨ ∃ front last, ls = front ++ [last] ∧ ls' = front ++ [last ++ [c]]

theorem Lengthened.cons {c : Char} {ls ls' : List (List Char)} (h : Lengthened c ls ls') (l : List Char) :
    Lengthened c (l :: ls) (l :: ls') := by
  rcases h with rfl | rfl | rfl | ⟨front, last, rfl, rfl⟩
  · exact .inl rfl
  · exact .inr (.inl rfl)
  · exact .inr (.inr (.inl rfl))
  · exact .inr (.inr (.inr ⟨l :: front, last, rfl, rfl⟩))

theorem Lengthened.consPiece {c : Char} {ls ls' : List (List Char)} (h : Lengthened c ls ls') (hne : ls ≠ [])
    (d : Char) : Lengthened c (consPiece d ls) (Text.consPiece d ls') := by
  rcases h with rfl | rfl | rfl | ⟨front, last, rfl, rfl⟩
  · exact .inl rfl
  · exact .inr (.inl (consPiece_append hne d _))
  · exact .inr (.inr (.inl (consPiece_append hne d _)))
  · cases front with
    | nil => exact .inr (.inr (.inr ⟨[], d :: last, rfl, rfl⟩))
    | cons first front => exact .inr (.inr (.inr ⟨(d :: first) :: front, last, rfl, rfl⟩))

theorem Lengthened.mem {c : Char} {ls ls' : List (List Char)} (h : Lengthened c ls ls') {l : List Char}
    (hl : l ∈ ls') (hne : l ≠ []) (hlast : l.getLast? ≠ some c) : l ∈ ls := by
  rcases h with rfl | rfl | rfl | ⟨front, last, rfl, rfl⟩
  · exact hl
  · simpa [hne] using hl
  · rcases List.mem_append.1 hl with hl | hl
    · exact hl
    · rw [List.mem_singleton.1 hl] at hlast
      exact absurd rfl hlast
  · rcases List.mem_append.1 hl with hl | hl
    · exact List.mem_append_left _ hl
    · rw [List.mem_singleton.1 hl] at hlast
      exact absurd (by simp) hlast

theorem splitOn_of_not_mem {sep : Char} {cs : List Char} (h : sep ∉ cs) : splitOn sep cs = [cs] := by
  induction cs with
  | nil => rfl
  | cons c cs ih =>
    obtain ⟨hc, hcs⟩ := not_or.1 (mt List.mem_cons.2 h)
    rw [splitOn_cons, if_neg (Ne.symm hc), ih hcs]
    rfl

theorem splitOn_append {sep : Char} {cs : List Char} (h : sep ∉ cs) (rest : List Char) :
    splitOn sep (cs ++ sep :: rest) = cs :: splitOn sep rest := by
  induction cs with
  | nil => rw [List.nil_append, splitOn_cons, if_pos rfl]
  | cons c cs ih =>
    obtain ⟨hc, hcs⟩ := not_or.1 (mt List.mem_cons.2 h)
    rw [List.cons_append, splitOn_cons, if_neg (Ne.symm hc), ih hcs]
    rfl

theorem splitOn_append_cons (sep : Char) (as bs : List Char) :
    splitOn sep (as ++ sep :: bs) = splitOn sep as ++ splitOn sep bs := by
  induction as with
  | nil =>
    rw [List.nil_append, splitOn_cons, if_pos rfl]
    rfl
  | cons c as ih =>
    rw [List.cons_append, splitOn_cons, ih, splitOn_cons]
    split_ifs
    · rfl
    · exact consPiece_append (splitOn_ne_nil sep as) c _

/-- Parts without the separator can be told apart once they are joined. -/
theorem splitOn_joinWith {sep : Char} {parts : List (List Char)} (hne : parts ≠ []) (h : ∀ q ∈ parts, sep ∉ q) :
    splitOn sep (joinWith [sep] parts) = parts := by
  induction parts with
  | nil => exact absurd rfl hne
  | cons q parts ih =>
    cases parts with
    | nil => rw [joinWith_singleton, splitOn_of_not_mem (h q (by simp))]
    | cons r parts =>
      rw [joinWith_cons_cons, List.singleton_append, splitOn_append (h q (by simp)),
        ih (by simp) fun p hp => h p (by simp [hp])]

theorem toList_join (sep : String) (parts : List String) :
    (join sep parts).toList = joinWith sep.toList (parts.map String.toList) := by
  cases parts with
  | nil => rfl
  | cons q parts =>
    have hfold (acc : String) : (parts.foldl (fun acc t => acc ++ sep ++ t) acc).toList =
        acc.toList ++ (parts.map fun t => sep.toList ++ t.toList).flatten := by
      induction parts generalizing acc with
      | nil => simp
      | cons r parts ih => rw [List.foldl_cons, ih]; simp
    rw [join, hfold]
    clear hfold
    induction parts generalizing q with
    | nil => simp [joinWith_singleton]
    | cons r parts ih =>
      have hr := ih r
      simp only [List.map_cons, List.flatten_cons, joinWith_cons_cons] at hr ⊢
      rw [← hr, List.append_assoc]

theorem pieces_append_slash (s t : String) : pieces '/' (s ++ "/" ++ t) = pieces '/' s ++ pieces '/' t := by
  rw [pieces, String.toList_append, String.toList_append, List.append_assoc]
  rw [show "/".toList ++ t.toList = '/' :: t.toList from rfl, splitOn_append_cons, List.map_append]
  rfl

theorem join_pieces (s : String) : join "/" (pieces '/' s) = s := by
  rw [← String.toList_inj, toList_join, pieces, List.map_map]
  simpa [Function.comp_def] using joinWith_splitOn '/' s.toList

theorem pieces_unlines {ls : List String} (hne : ls ≠ []) (h : ∀ l ∈ ls, '\n' ∉ l.toList) :
    pieces '\n' (unlines ls) = ls := by
  have hsplit : splitOn '\n' (unlines ls).toList = ls.map String.toList := by
    rw [unlines, toList_join]
    exact splitOn_joinWith (by simpa using hne) (by simpa using h)
  rw [pieces, hsplit, List.map_map]
  simp [Function.comp_def]

theorem exists_join_cons (sep first : String) (rest : List String) :
    ∃ after, join sep (first :: rest) = first ++ after := by
  induction rest generalizing first with
  | nil => exact ⟨"", String.append_empty.symm⟩
  | cons next rest ih =>
    obtain ⟨after, hafter⟩ := ih (first ++ sep ++ next)
    refine ⟨sep ++ next ++ after, ?_⟩
    show join sep ((first ++ sep ++ next) :: rest) = _
    rw [hafter]
    simp only [String.append_assoc]

theorem join_concat {parts : List String} (h : parts ≠ []) (sep text : String) :
    join sep (parts ++ [text]) = join sep parts ++ sep ++ text := by
  obtain ⟨first, rest, rfl⟩ := List.exists_cons_of_ne_nil h
  simp [join, List.foldl_append]

theorem mem_joinWith {sep : List Char} {parts : List (List Char)} {c : Char} (h : c ∈ joinWith sep parts) :
    c ∈ sep ∨ ∃ q ∈ parts, c ∈ q := by
  induction parts with
  | nil => cases h
  | cons q parts ih =>
    cases parts with
    | nil =>
      rw [joinWith_singleton] at h
      exact .inr ⟨q, by simp, h⟩
    | cons r parts =>
      rw [joinWith_cons_cons, List.mem_append, List.mem_append] at h
      rcases h with h | h | h
      · exact .inr ⟨q, by simp, h⟩
      · exact .inl h
      · obtain hsep | ⟨p, hp, hc⟩ := ih h
        · exact .inl hsep
        · exact .inr ⟨p, List.mem_cons_of_mem _ hp, hc⟩

theorem unifyNewlines_of_not_mem {cs : List Char} (h : '\r' ∉ cs) : unifyNewlines cs = cs := by
  unfold unifyNewlines
  induction cs with
  | nil => rfl
  | cons c cs ih =>
    obtain ⟨hc, hcs⟩ := not_or.1 (mt List.mem_cons.2 h)
    rw [List.foldr_cons, unifyNewlines.step, if_neg (Ne.symm hc), ih hcs]

/-! ### Trimming -/

theorem stripLeft_of_not_blank {cs : List Char} (h : ∀ c ∈ cs.head?, isBlank c = false) : stripLeft cs = cs := by
  unfold stripLeft
  cases cs with
  | nil => rfl
  | cons c cs => exact List.dropWhile_cons_of_neg (by simp [h c rfl])

theorem head?_strip_cons {c : Char} (hc : isBlank c = false) (cs : List Char) : (strip (c :: cs)).head? = some c := by
  have hprefix : strip (c :: cs) <+: c :: cs := by
    rw [strip, stripLeft_of_not_blank (by simp [hc])]
    exact stripRight_isPrefix _
  cases hstrip : strip (c :: cs) with
  | nil => simp [strip_eq_nil_iff, solid_cons_of_not_blank hc] at hstrip
  | cons d ds =>
    rw [hstrip] at hprefix
    rw [(List.cons_prefix_cons.1 hprefix).1]
    rfl

theorem strip_eq_self {c : Char} {cs : List Char} (hhead : ∀ d ∈ cs.head?, isBlank d = false)
    (hlast : cs.getLast? = some c) (hc : isBlank c = false) : strip cs = cs := by
  obtain ⟨front, rfl⟩ := List.getLast?_eq_some_iff.1 hlast
  rw [strip, stripLeft_of_not_blank hhead]
  exact List.rdropWhile_concat_neg isBlank front c (by simp [hc])

theorem not_blank_of_getLast?_strip {c : Char} {cs : List Char} (h : (strip cs).getLast? = some c) :
    isBlank c = false := by
  rw [strip, stripRight, List.getLast?_reverse] at h
  have hnot := List.head?_dropWhile_not isBlank (stripLeft cs).reverse
  rw [h] at hnot
  simpa using hnot

theorem strip_strip (cs : List Char) : strip (strip cs) = strip cs := by
  cases hlast : (strip cs).getLast? with
  | none =>
    rw [List.getLast?_eq_none_iff.1 hlast]
    rfl
  | some c =>
    apply strip_eq_self _ hlast (not_blank_of_getLast?_strip hlast)
    intro d hd
    obtain ⟨r, hr⟩ := List.head?_eq_some_iff.1 hd
    exact not_blank_of_strip_eq_cons hr

theorem getLast?_strip {c : Char} {cs : List Char} (h : cs.getLast? = some c) (hc : isBlank c = false) :
    (strip cs).getLast? = some c := by
  have hleft : (stripLeft cs).getLast? = some c := by
    obtain ⟨front, rfl⟩ := List.getLast?_eq_some_iff.1 h
    rw [stripLeft, List.dropWhile_append]
    split
    · simp [hc]
    · simp
  have hstrip : strip cs = stripLeft cs := by
    obtain ⟨front, hfront⟩ := List.getLast?_eq_some_iff.1 hleft
    rw [strip, hfront]
    exact List.rdropWhile_concat_neg isBlank front c (by simp [hc])
  rw [hstrip, hleft]

end IssuePlanner.Text
