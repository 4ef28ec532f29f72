import IssuePlanner.Proofs.Text.Lines
import IssuePlanner.Text.Search

/-! Replacing a text. The copies are found from left to right (`replaceAll_append`, `replaceAll_cons`), so what holds of
a replacement follows the text copy by copy (`copyInduction`). Removing copies makes a text shorter exactly if there is
one (`removeAll_of_not_isInfix`, `length_removeAll_lt`). -/

namespace IssuePlanner.Text

variable {pat cs : List Char} {c d : Char}

/-! ### Copies from left to right -/

theorem splitBy_go_eq (pat : List Char) (done : List (List Char)) (skip : Nat) (piece cs : List Char) :
    splitBy.go pat done skip piece cs =
      done.reverse ++ (splitBy pat (cs.drop skip)).modifyHead (piece.reverse ++ ·) := by
  induction cs generalizing done skip piece with
  | nil => simp [splitBy, splitBy.go]
  | cons c r ih =>
    cases skip with
    | succ n => exact ih done n piece
    | zero =>
      rw [List.drop_zero, splitBy]
      by_cases h : pat.isPrefixOf (c :: r) = true
      · simp only [splitBy.go, h, if_true, ih]
        simp
      · simp only [splitBy.go, h, ih]
        simp [Function.comp_def]

theorem splitBy_ne_nil (pat cs : List Char) : splitBy pat cs ≠ [] := by
  suffices ∀ done skip piece, splitBy.go pat done skip piece cs ≠ [] from this [] 0 []
  induction cs with
  | nil => simp [splitBy.go]
  | cons c r ih =>
    intro done skip piece
    unfold splitBy.go
    split
    · exact ih _ _ _
    · split
      · exact ih _ _ _
      · exact ih _ _ _

@[simp] theorem replaceAll_nil (pat new : List Char) : replaceAll pat new [] = [] := by
  simp [replaceAll, splitBy, splitBy.go, joinWith_singleton]

theorem splitBy_append (hpat : pat ≠ []) (cs : List Char) : splitBy pat (pat ++ cs) = [] :: splitBy pat cs := by
  obtain ⟨p, ps, rfl⟩ := List.exists_cons_of_ne_nil hpat
  have hprefix : (p :: ps).isPrefixOf (p :: (ps ++ cs)) = true := by simp
  obtain ⟨q, qs, hcs⟩ := List.exists_cons_of_ne_nil (splitBy_ne_nil (p :: ps) cs)
  rw [splitBy, List.cons_append, splitBy.go, if_pos hprefix, splitBy_go_eq]
  simp [hcs]

theorem splitBy_cons (h : ¬pat <+: c :: cs) : splitBy pat (c :: cs) = (splitBy pat cs).modifyHead (c :: ·) := by
  have hprefix : ¬pat.isPrefixOf (c :: cs) = true := by simpa using h
  rw [splitBy, splitBy.go, if_neg hprefix, splitBy_go_eq]
  simp

theorem replaceAll_append (hpat : pat ≠ []) (new cs : List Char) :
    replaceAll pat new (pat ++ cs) = new ++ replaceAll pat new cs := by
  obtain ⟨q, qs, hcs⟩ := List.exists_cons_of_ne_nil (splitBy_ne_nil pat cs)
  rw [replaceAll, splitBy_append hpat, replaceAll, hcs, joinWith_cons_cons, List.nil_append]

theorem replaceAll_cons (h : ¬pat <+: c :: cs) (new : List Char) :
    replaceAll pat new (c :: cs) = c :: replaceAll pat new cs := by
  obtain ⟨q, qs, hcs⟩ := List.exists_cons_of_ne_nil (splitBy_ne_nil pat cs)
  rw [replaceAll, splitBy_cons h, replaceAll, hcs, List.modifyHead_cons]
  cases qs with
  | nil => simp only [joinWith_singleton]
  | cons r qs => simp only [joinWith_cons_cons, List.cons_append]

theorem replaceAll_of_not_mem {front : List Char} (h : c ∉ front) (new : List Char) :
    replaceAll (c :: pat) new (front ++ cs) = front ++ replaceAll (c :: pat) new cs := by
  induction front with
  | nil => rfl
  | cons d front ih =>
    rw [List.mem_cons, not_or] at h
    have hprefix : ¬c :: pat <+: d :: (front ++ cs) := fun hd => h.1 (List.cons_prefix_cons.1 hd).1
    rw [List.cons_append, replaceAll_cons hprefix, ih h.2, List.cons_append]

/-- Induction over a text that takes a copy of `pat` at once. -/
@[elab_as_elim]
theorem copyInduction {motive : List Char → Prop} (hpat : pat ≠ []) (nil : motive [])
    (copy : ∀ cs, motive cs → motive (pat ++ cs))
    (other : ∀ c cs, ¬pat <+: c :: cs → motive cs → motive (c :: cs)) (cs : List Char) : motive cs := by
  generalize hn : cs.length = n
  induction n using Nat.strongRecOn generalizing cs with
  | ind n ih =>
    cases cs with
    | nil => exact nil
    | cons c cs =>
      by_cases h : pat <+: c :: cs
      · obtain ⟨rest, hrest⟩ := h
        have hlength := congrArg List.length hrest
        have hpos := List.length_pos_iff.2 hpat
        rw [List.length_append] at hlength
        rw [← hrest]
        exact copy rest (ih rest.length (by omega) rest rfl)
      · exact other c cs h (ih cs.length (by simp [← hn]) cs rfl)

/-! ### Removing copies -/

theorem removeAll_sublist (hpat : pat ≠ []) (cs : List Char) : (replaceAll pat [] cs).Sublist cs := by
  induction cs using copyInduction hpat with
  | nil => simp
  | copy cs ih =>
    rw [replaceAll_append hpat]
    exact ih.trans (List.sublist_append_right pat cs)
  | other c cs h ih =>
    rw [replaceAll_cons h]
    exact ih.cons_cons c

theorem removeAll_of_not_isInfix (hpat : pat ≠ []) (h : ¬pat <:+: cs) : replaceAll pat [] cs = cs := by
  induction cs using copyInduction hpat with
  | nil => simp
  | copy cs ih => exact absurd (List.prefix_append pat cs).isInfix h
  | other c cs hprefix ih =>
    rw [replaceAll_cons hprefix, ih fun hinfix => h (List.infix_cons hinfix)]

theorem length_removeAll_lt (hpat : pat ≠ []) (h : pat <:+: cs) : (replaceAll pat [] cs).length < cs.length := by
  induction cs using copyInduction hpat with
  | nil => exact absurd (List.infix_nil.1 h) hpat
  | copy cs ih =>
    have hle := (removeAll_sublist hpat cs).length_le
    have hpos := List.length_pos_iff.2 hpat
    rw [replaceAll_append hpat, List.nil_append, List.length_append]
    omega
  | other c cs hprefix ih =>
    rw [replaceAll_cons hprefix, List.length_cons, List.length_cons]
    have hlt := ih ((List.infix_cons_iff.1 h).resolve_left hprefix)
    omega

theorem getLast?_removeAll (hpat : pat ≠ []) (hd : pat.getLast? ≠ some d) (h : cs.getLast? = some d) :
    (replaceAll pat [] cs).getLast? = some d := by
  induction cs using copyInduction hpat with
  | nil => exact h
  | copy cs ih =>
    rw [replaceAll_append hpat, List.nil_append]
    rw [List.getLast?_append] at h
    cases hcs : cs.getLast? with
    | none => exact absurd (by simpa [hcs] using h) hd
    | some e => exact ih (by simpa [hcs] using h)
  | other c cs hprefix ih =>
    rw [replaceAll_cons hprefix]
    cases cs with
    | nil => simpa using h
    | cons e es =>
      rw [List.getLast?_cons_cons] at h
      rw [List.getLast?_cons, ih h]
      rfl

end IssuePlanner.Text
