import IssuePlanner.Proofs.Text.Solid

/-! The lines of a trimmed text. Trimming a text before it is cut into lines changes nothing when the lines are
trimmed anyway (`trimmedLines_strip`). Lines that are kept as they are stay the same exactly if trimming removes
nothing but line feeds (`filledLines_strip_iff`). -/

namespace IssuePlanner.Text

theorem splitOn_concat (sep c : Char) (cs : List Char) :
    ∃ ps q, splitOn sep cs = ps ++ [q] ∧
      splitOn sep (cs ++ [c]) = if c = sep then ps ++ [q] ++ [[]] else ps ++ [q ++ [c]] := by
  induction cs with
  | nil =>
    refine ⟨[], [], rfl, ?_⟩
    rw [List.nil_append, splitOn_cons]
    split_ifs <;> rfl
  | cons a cs ih =>
    obtain ⟨ps, q, hcs, hc⟩ := ih
    rw [List.cons_append, splitOn_cons, splitOn_cons, hcs, hc]
    by_cases ha : a = sep
    · refine ⟨[] :: ps, q, by rw [if_pos ha]; rfl, ?_⟩
      rw [if_pos ha]
      split_ifs <;> rfl
    · rw [if_neg ha, if_neg ha]
      cases ps with
      | nil =>
        refine ⟨[], a :: q, rfl, ?_⟩
        split_ifs <;> rfl
      | cons p ps =>
        refine ⟨(a :: p) :: ps, q, rfl, ?_⟩
        split_ifs <;> rfl

/-- The last piece of a text, and what stands before it: nothing exactly if the text has no separator. -/
theorem exists_splitOn_eq_concat (sep : Char) (cs : List Char) :
    ∃ init last front, splitOn sep cs = init ++ [last] ∧ cs = front ++ last ∧ (init = [] ↔ front = []) ∧
      (front = [] ↔ sep ∉ cs) := by
  induction cs with
  | nil => exact ⟨[], [], [], rfl, rfl, by simp, by simp⟩
  | cons c cs ih =>
    obtain ⟨init, last, front, hsplit, rfl, hinit, hfront⟩ := ih
    rw [splitOn_cons, hsplit]
    by_cases hc : c = sep
    · exact ⟨[] :: init, last, c :: front, by simp [hc], rfl, by simp, by simp [hc]⟩
    · rw [if_neg hc]
      cases init with
      | nil =>
        obtain rfl := hinit.1 rfl
        exact ⟨[], c :: last, [], rfl, rfl, by simp, by simpa [Ne.symm hc] using hfront⟩
      | cons p init =>
        have hne : front ≠ [] := fun h => List.cons_ne_nil _ _ (hinit.2 h)
        refine ⟨(c :: p) :: init, last, c :: front, rfl, rfl, by simp, ?_⟩
        have hsep : sep ∈ front ++ last := not_not.1 fun h => hne (hfront.2 h)
        simp only [List.cons_ne_nil, false_iff, not_not, List.mem_cons]
        exact .inr hsep

theorem exists_strip_append (cs : List Char) :
    ∃ as bs, cs = as ++ strip cs ++ bs ∧ (∀ c ∈ as, isBlank c = true) ∧ ∀ c ∈ bs, isBlank c = true := by
  refine ⟨cs.takeWhile isBlank, (stripLeft cs).rtakeWhile isBlank, ?_, ?_, ?_⟩
  · rw [List.append_assoc]
    have hright : strip cs ++ (stripLeft cs).rtakeWhile isBlank = stripLeft cs :=
      List.rdropWhile_append_rtakeWhile
    rw [hright, stripLeft_eq_append]
  · exact fun c hc => List.mem_takeWhile_imp hc
  · exact fun c hc => List.mem_rtakeWhile_imp hc

section Ends

variable {h : List Char → List Char} {P : Char → Prop}

/-- Characters in front of a text that no line keeps do not change its lines. -/
theorem filter_map_splitOn_append_left (hnil : h [] = [])
    (hfront : ∀ c p, P c → c ≠ '\n' → h (c :: p) = h p) {as : List Char} (has : ∀ c ∈ as, P c)
    (cs : List Char) :
    ((splitOn '\n' (as ++ cs)).map h).filter (· ≠ []) = ((splitOn '\n' cs).map h).filter (· ≠ []) := by
  induction as with
  | nil => rfl
  | cons a as ih =>
    rw [← ih fun c hc => has c (by simp [hc]), List.cons_append, splitOn_cons]
    by_cases ha : a = '\n'
    · rw [if_pos ha, List.map_cons, hnil, List.filter_cons_of_neg (by simp)]
    · rw [if_neg ha]
      obtain ⟨p, ps, hps⟩ := List.exists_cons_of_ne_nil (splitOn_ne_nil '\n' (as ++ cs))
      rw [hps, consPiece, List.map_cons, List.map_cons, hfront a p (has a (by simp)) ha]

theorem filter_map_splitOn_append_right (hnil : h [] = [])
    (hback : ∀ c p, P c → c ≠ '\n' → h (p ++ [c]) = h p) {bs : List Char} (hbs : ∀ c ∈ bs, P c)
    (cs : List Char) :
    ((splitOn '\n' (cs ++ bs)).map h).filter (· ≠ []) = ((splitOn '\n' cs).map h).filter (· ≠ []) := by
  induction bs generalizing cs with
  | nil => rw [List.append_nil]
  | cons b bs ih =>
    rw [List.append_cons, ih fun c hc => hbs c (by simp [hc])]
    obtain ⟨ps, q, hcs, hb⟩ := splitOn_concat '\n' b cs
    rw [hb, hcs]
    by_cases hnl : b = '\n'
    · rw [if_pos hnl, List.map_append, List.filter_append, List.map_singleton, hnil,
        List.filter_cons_of_neg (by simp), List.filter_nil, List.append_nil]
    · rw [if_neg hnl, List.map_append, List.map_append, List.map_singleton, List.map_singleton,
        hback b q (hbs b (by simp)) hnl]

end Ends

/-! ### Trimmed lines -/

theorem strip_cons_of_blank {c : Char} (hc : isBlank c = true) (p : List Char) : strip (c :: p) = strip p := by
  rw [strip, stripLeft, List.dropWhile_cons_of_pos hc, ← stripLeft, ← strip]

theorem strip_concat_of_blank {c : Char} (hc : isBlank c = true) (p : List Char) :
    strip (p ++ [c]) = strip p := by
  have hright (l : List Char) : stripRight (l ++ [c]) = stripRight l :=
    List.rdropWhile_concat_pos isBlank l c hc
  simp only [strip, stripLeft, List.dropWhile_append]
  split_ifs with he
  · rw [List.isEmpty_iff.1 he, List.dropWhile_cons_of_pos hc, List.dropWhile_nil]
  · exact hright _

theorem strip_append_of_blank {bs : List Char} (h : ∀ c ∈ bs, isBlank c = true) (as : List Char) :
    strip (as ++ bs) = strip as := by
  induction bs using List.reverseRecOn with
  | nil => rw [List.append_nil]
  | append_singleton bs c ih =>
    rw [List.forall_mem_append] at h
    rw [← List.append_assoc, strip_concat_of_blank (h.2 c List.mem_cons_self), ih h.1]

/-- The trimmed lines of a text do not change when the text itself is trimmed. -/
theorem trimmedLines_strip (cs : List Char) :
    ((splitOn '\n' (strip cs)).map strip).filter (· ≠ []) =
      ((splitOn '\n' cs).map strip).filter (· ≠ []) := by
  obtain ⟨as, bs, hcs, has, hbs⟩ := exists_strip_append cs
  have hleft := filter_map_splitOn_append_left (h := strip) rfl
    (fun c p hc _ => strip_cons_of_blank hc p) has (strip cs)
  have hright := filter_map_splitOn_append_right (h := strip) rfl
    (fun c p hc _ => strip_concat_of_blank hc p) hbs (as ++ strip cs)
  rw [← hcs] at hright
  rw [hright, hleft]

/-! ### Lines as they are -/

/-- Trimming removes nothing but line feeds. -/
def TrimsLineFeeds (cs : List Char) : Prop :=
  ∃ as bs, cs = as ++ strip cs ++ bs ∧ (∀ c ∈ as, c = '\n') ∧ ∀ c ∈ bs, c = '\n'

theorem flatten_splitOn (sep : Char) (cs : List Char) : (splitOn sep cs).flatten = cs.filter (· ≠ sep) := by
  induction cs with
  | nil => rfl
  | cons c cs ih =>
    rw [splitOn_cons]
    by_cases hc : c = sep
    · rw [if_pos hc, List.flatten_cons, List.nil_append, ih, List.filter_cons_of_neg (by simpa using hc)]
    · rw [if_neg hc, List.filter_cons_of_pos (by simpa using hc), ← ih]
      cases splitOn sep cs <;> rfl

theorem flatten_filter_ne_nil (ls : List (List Char)) : (ls.filter (· ≠ [])).flatten = ls.flatten := by
  induction ls with
  | nil => rfl
  | cons l ls ih =>
    by_cases hl : l = []
    · rw [List.filter_cons_of_neg (by simpa using hl), ih, hl]
      rfl
    · rw [List.filter_cons_of_pos (by simpa using hl), List.flatten_cons, List.flatten_cons, ih]

/-- The lines of a text, empty ones apart, do not change when the text is trimmed exactly if trimming removes
nothing but line feeds. -/
theorem filledLines_strip_iff (cs : List Char) :
    (splitOn '\n' (strip cs)).filter (· ≠ []) = (splitOn '\n' cs).filter (· ≠ []) ↔ TrimsLineFeeds cs := by
  constructor
  · intro heq
    obtain ⟨as, bs, hcs, -, -⟩ := exists_strip_append cs
    -- both sides hold the same characters, so the ends hold none that a line keeps
    have hflat := congrArg List.flatten heq
    rw [flatten_filter_ne_nil, flatten_filter_ne_nil, flatten_splitOn, flatten_splitOn] at hflat
    have hlen := congrArg List.length hflat
    conv_rhs at hlen => rw [hcs]
    simp only [List.filter_append, List.length_append] at hlen
    have has : as.filter (· ≠ '\n') = [] := List.length_eq_zero_iff.1 (by omega)
    have hbs : bs.filter (· ≠ '\n') = [] := List.length_eq_zero_iff.1 (by omega)
    refine ⟨as, bs, hcs, ?_, ?_⟩
    · simpa using has
    · simpa using hbs
  · rintro ⟨as, bs, hcs, has, hbs⟩
    have hleft := filter_map_splitOn_append_left (h := id) rfl
      (fun c p hc hne => absurd hc hne) has (strip cs)
    have hright := filter_map_splitOn_append_right (h := id) rfl
      (fun c p hc hne => absurd hc hne) hbs (as ++ strip cs)
    rw [← hcs] at hright
    simpa only [List.map_id] using (hright.trans hleft).symm

end IssuePlanner.Text
