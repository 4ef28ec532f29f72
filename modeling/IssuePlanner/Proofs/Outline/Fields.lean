import IssuePlanner.Proofs.Chunk.Cut
import IssuePlanner.Proofs.Outline.Structs
import IssuePlanner.Proofs.Text.Replace
import IssuePlanner.Proofs.Text.Words

/-! The fields in the line of a struct. Line comments are removed when the lines are one already, so of the body of a
struct its line has what stands before the first comment, and the space that stays there (`beforeLineComment_squeezed`).
The fields on later lines are hidden (`exists_hiddenFields`), and the space may be what makes the text too long. In every
other case the line has all fields in order (`showsFields_iff`). -/

namespace IssuePlanner.Outline.Package

variable {cs body : List Char}

/-! ### The first comment -/

theorem beforeLineComment_comment (rest : List Char) : beforeLineComment ('/' :: '/' :: rest) = [] := by
  have hsplit : Text.splitBy ['/', '/'] (['/', '/'] ++ rest) = [] :: Text.splitBy ['/', '/'] rest :=
    Text.splitBy_append (by simp) rest
  rw [beforeLineComment, show '/' :: '/' :: rest = ['/', '/'] ++ rest from rfl, hsplit]
  rfl

theorem beforeLineComment_cons {c : Char} (h : ¬['/', '/'] <+: c :: cs) :
    beforeLineComment (c :: cs) = c :: beforeLineComment cs := by
  obtain ⟨p, ps, hp⟩ := List.exists_cons_of_ne_nil (Text.splitBy_ne_nil ['/', '/'] cs)
  rw [beforeLineComment, Text.splitBy_cons h, beforeLineComment, hp]
  rfl

/-- A text has no comment, or it is cut where the first one starts. -/
theorem comment_cases (cs : List Char) :
    (¬['/', '/'] <:+: cs ∧ beforeLineComment cs = cs) ∨
      ∃ rest, cs = beforeLineComment cs ++ '/' :: '/' :: rest ∧ ¬['/', '/'] <:+: beforeLineComment cs ++ ['/'] := by
  induction cs with
  | nil => exact .inl ⟨by simp, rfl⟩
  | cons c cs ih =>
    by_cases hstarts : ['/', '/'] <+: c :: cs
    · obtain ⟨rest, hrest⟩ := hstarts
      rw [← hrest, show ['/', '/'] ++ rest = '/' :: '/' :: rest from rfl, beforeLineComment_comment]
      exact .inr ⟨rest, rfl, by decide⟩
    · rw [beforeLineComment_cons hstarts]
      rcases ih with ⟨hoccurs, heq⟩ | ⟨rest, heq, hoccurs⟩
      · refine .inl ⟨fun h => ?_, by rw [heq]⟩
        exact (List.infix_cons_iff.1 h).elim hstarts hoccurs
      · refine .inr ⟨rest, by rw [List.cons_append, ← heq], fun h => ?_⟩
        have hshorter : c :: (beforeLineComment cs ++ ['/']) <+: c :: cs := ⟨'/' :: rest, by
          rw [List.cons_append, List.append_assoc, List.singleton_append, ← heq]⟩
        exact (List.infix_cons_iff.1 h).elim (fun h => hstarts (h.trans hshorter)) hoccurs

theorem beforeLineComment_append {as : List Char} (h : ¬['/', '/'] <:+: as ++ ['/']) (rest : List Char) :
    beforeLineComment (as ++ '/' :: '/' :: rest) = as := by
  induction as with
  | nil => exact beforeLineComment_comment rest
  | cons c as ih =>
    have hstarts : ¬['/', '/'] <+: c :: (as ++ '/' :: '/' :: rest) := by
      intro hstarts
      have hlonger : c :: as ++ ['/'] <+: c :: (as ++ '/' :: '/' :: rest) := ⟨'/' :: rest, by simp⟩
      exact h (List.prefix_of_prefix_length_le hstarts hlonger (by simp)).isInfix
    rw [List.cons_append, beforeLineComment_cons hstarts, ih fun hoccurs => h (List.infix_cons hoccurs)]

theorem beforeLineComment_of_not_isInfix (h : ¬['/', '/'] <:+: cs) : beforeLineComment cs = cs := by
  induction cs with
  | nil => rfl
  | cons c cs ih =>
    rw [beforeLineComment_cons fun hstarts => h hstarts.isInfix, ih fun hoccurs => h (List.infix_cons hoccurs)]

/-! ### One line -/

/-- The space that is left between the fields and the first comment. -/
def leftover (body : List Char) : List Char :=
  if Text.occurs ['/', '/'] body then Text.gapAfter (beforeLineComment body) else []

theorem leftover_eq (body : List Char) : leftover body = [] ∨ leftover body = [' '] := by
  unfold leftover Text.gapAfter
  split_ifs <;> simp

theorem beforeLineComment_squeezed (body : List Char) :
    beforeLineComment (Text.squeezed body) = Text.squeezed (beforeLineComment body) ++ leftover body := by
  rcases comment_cases body with ⟨hoccurs, heq⟩ | ⟨rest, heq, hoccurs⟩
  · have hnone : ¬Text.occurs ['/', '/'] body = true := fun h => hoccurs (Text.occurs_iff_isInfix.1 h)
    have hsqueezed : ¬['/', '/'] <:+: Text.squeezed body := fun h =>
      hoccurs (Text.isInfix_of_squeezed (by simp) (by decide) h)
    rw [beforeLineComment_of_not_isInfix hsqueezed, heq, leftover, if_neg hnone, List.append_nil]
  · have hsome : Text.occurs ['/', '/'] body = true :=
      Text.occurs_iff_isInfix.2 ⟨beforeLineComment body, rest, by rw [List.append_assoc]; exact heq.symm⟩
    rw [leftover, if_pos hsome]
    generalize beforeLineComment body = code at heq hoccurs
    have hslash : Text.isBlank '/' = false := by decide
    obtain ⟨more, hmore⟩ := Text.exists_squeezed_cons hslash rest
    -- one more slash behind the code is squeezed like the comment, so the two slashes are the first ones
    have hone : Text.squeezed (code ++ ['/']) = Text.squeezed code ++ Text.gapAfter code ++ ['/'] := by
      rw [Text.squeezed_append code rfl hslash, List.append_assoc]
      rfl
    have hfirst : ¬['/', '/'] <:+: Text.squeezed code ++ Text.gapAfter code ++ ['/'] := by
      rw [← hone]
      exact fun h => hoccurs (Text.isInfix_of_squeezed (by simp) (by decide) h)
    rw [heq, Text.squeezed_append code rfl hslash, Text.squeezed_cons_cons hslash hslash, hmore, ← List.append_assoc,
      beforeLineComment_append hfirst]

theorem dropBlockComments_of_not_isInfix (n : Nat) (out : List Char) (h : ¬['/', '*'] <:+: cs) :
    dropBlockComments n out cs = out.reverse ++ cs := by
  induction n generalizing out cs with
  | zero => rfl
  | succ n ih =>
    cases cs with
    | nil => simp [dropBlockComments]
    | cons c cs =>
      have hnone : Text.after? ['/', '*'] (c :: cs) = none := by
        rw [Option.eq_none_iff_forall_ne_some]
        intro rest hrest
        rw [Text.after?_eq_some] at hrest
        exact h ⟨[], rest, hrest.symm⟩
      rw [dropBlockComments, hnone]
      dsimp only
      rw [ih _ fun hoccurs => h (List.infix_cons hoccurs)]
      simp

def shortened (text : List Char) : List Char :=
  if fieldsLimit < text.length then text.take (fieldsLimit - 3) ++ ['.', '.', '.'] else text

theorem fieldsText_eq (h : ¬['/', '*'] <:+: beforeLineComment body) :
    fieldsText body = shortened (Text.squeezed (beforeLineComment body) ++ leftover body) := by
  have hclean : ¬['/', '*'] <:+: Text.squeezed (beforeLineComment body) ++ leftover body := by
    have hsqueezed : ¬['/', '*'] <:+: Text.squeezed (beforeLineComment body) := fun hoccurs =>
      h (Text.isInfix_of_squeezed (by simp) (by decide) hoccurs)
    rcases leftover_eq body with hnone | hspace
    · rwa [hnone, List.append_nil]
    · rw [hspace]
      intro hoccurs
      rcases Text.isInfix_append_cons hoccurs (by decide) with hoccurs | hoccurs
      · exact hsqueezed hoccurs
      · exact absurd hoccurs (by simp)
  have hflat : beforeLineComment (Text.joinWith [' '] (Text.words body)) = _ := beforeLineComment_squeezed body
  rw [fieldsText, hflat, dropBlockComments_of_not_isInfix _ _ hclean]
  rfl

/-! ### Fields -/

/-- The field that stands on a line: its words before the comment, with single spaces. -/
def lineField (line : List Char) : List Char := Text.squeezed (beforeLineComment line)

def fieldsOf (body : List Char) : List (List Char) :=
  ((Text.splitOn '\n' body).map lineField).filter (· ≠ [])

/-- No field stands on a line behind a commented one. -/
def CommentsLast (body : List Char) : Prop :=
  (Text.splitOn '\n' body).Pairwise fun line later => ['/', '/'] <:+: line → lineField later = []

instance (body : List Char) : Decidable (CommentsLast body) :=
  inferInstanceAs (Decidable (List.Pairwise _ _))

def shownFields (body : List Char) : List (List Char) :=
  ((Text.splitOn '\n' (beforeLineComment body)).map Text.squeezed).filter (· ≠ [])

theorem joinWith_shownFields (body : List Char) :
    Text.joinWith [' '] (shownFields body) = Text.squeezed (beforeLineComment body) :=
  (Text.squeezed_eq_lines _).symm

theorem lineField_of_not_isInfix {line : List Char} (h : ¬['/', '/'] <:+: line) :
    lineField line = Text.squeezed line := by
  rw [lineField, beforeLineComment_of_not_isInfix h]

/-- The lines of a body: all without a comment, or those up to the first comment, the line that has it, and later ones. -/
theorem lines_cases (body : List Char) :
    (¬['/', '/'] <:+: body ∧ beforeLineComment body = body) ∨
      ∃ init last comment later, Text.splitOn '\n' (beforeLineComment body) = init ++ [last] ∧
        Text.splitOn '\n' body = init ++ (last ++ '/' :: '/' :: comment) :: later ∧
        (∀ line ∈ init, ¬['/', '/'] <:+: line) ∧ ¬['/', '/'] <:+: last ++ ['/'] := by
  refine (comment_cases body).imp_right ?_
  rintro ⟨rest, heq, hoccurs⟩
  generalize beforeLineComment body = code at heq hoccurs
  obtain ⟨init, last, front, hsplit, rfl, -, -⟩ := Text.exists_splitOn_eq_concat '\n' code
  have hinit : ∀ line ∈ init, ¬['/', '/'] <:+: line := by
    intro line hline h
    have hline' : line <:+: front ++ last := Text.isInfix_of_mem_splitOn (by rw [hsplit]; simp [hline])
    exact hoccurs ((h.trans hline').trans (List.prefix_append _ _).isInfix)
  have hlast : ¬['/', '/'] <:+: last ++ ['/'] := fun h =>
    hoccurs (h.trans (by rw [List.append_assoc]; exact (List.suffix_append _ _).isInfix))
  by_cases hend : '\n' ∈ rest
  · obtain ⟨comment, later, rfl, hcomment⟩ := List.eq_append_cons_of_mem hend
    have hline : Text.splitOn '\n' (front ++ last ++ '/' :: '/' :: comment) = init ++ [last ++ '/' :: '/' :: comment] :=
      Text.splitOn_append_of_not_mem hsplit (by simpa using hcomment)
    refine ⟨init, last, comment, Text.splitOn '\n' later, hsplit, ?_, hinit, hlast⟩
    rw [heq, show front ++ last ++ '/' :: '/' :: (comment ++ '\n' :: later) =
      (front ++ last ++ '/' :: '/' :: comment) ++ '\n' :: later by simp, Text.splitOn_append_cons, hline]
    simp
  · refine ⟨init, last, rest, [], hsplit, ?_, hinit, hlast⟩
    rw [heq, Text.splitOn_append_of_not_mem hsplit (by simpa using hend)]

/-- The fields that follow those before the first comment; there are none exactly if comments come last. -/
theorem exists_hiddenFields (body : List Char) :
    ∃ hidden, fieldsOf body = shownFields body ++ hidden ∧ (CommentsLast body ↔ hidden = []) := by
  rcases lines_cases body with ⟨hoccurs, heq⟩ | ⟨init, last, comment, later, hshown, hlines, hinit, hlast⟩
  · have hline : ∀ line ∈ Text.splitOn '\n' body, ¬['/', '/'] <:+: line := fun line hline h =>
      hoccurs (h.trans (Text.isInfix_of_mem_splitOn hline))
    refine ⟨[], ?_, iff_of_true ?_ rfl⟩
    · rw [fieldsOf, shownFields, heq, List.append_nil,
        List.map_congr_left fun line h => lineField_of_not_isInfix (hline line h)]
    · exact List.pairwise_of_forall_mem_list fun line h later _ hcomment => absurd hcomment (hline line h)
  · have hfield : lineField (last ++ '/' :: '/' :: comment) = Text.squeezed last := by
      rw [lineField, beforeLineComment_append hlast]
    have hcommented : ['/', '/'] <:+: last ++ '/' :: '/' :: comment := ⟨last, comment, by simp⟩
    refine ⟨(later.map lineField).filter (· ≠ []), ?_, ?_⟩
    · rw [fieldsOf, shownFields, hlines, hshown, List.map_append, List.map_cons, hfield,
        List.map_congr_left fun line h => lineField_of_not_isInfix (hinit line h)]
      simp only [List.filter_append, List.map_append, List.append_assoc, List.map_cons, List.map_nil, List.filter_cons,
        List.filter_nil]
      split_ifs <;> simp
    · -- only the line with the first comment says something about later ones
      rw [CommentsLast, hlines, List.pairwise_append, List.pairwise_cons, List.filter_eq_nil_iff]
      constructor
      · rintro ⟨-, ⟨hlater, -⟩, -⟩ field hmem
        obtain ⟨line, hline, rfl⟩ := List.mem_map.1 hmem
        simpa using hlater line hline hcommented
      · intro hnone
        have hempty : ∀ line ∈ later, lineField line = [] := fun line hline => by
          simpa using hnone (lineField line) (List.mem_map_of_mem hline)
        refine ⟨?_, ⟨fun line hline _ => hempty line hline, ?_⟩, fun line hline _ _ h => absurd h (hinit line hline)⟩
        · exact List.pairwise_of_forall_mem_list fun line hline _ _ h => absurd h (hinit line hline)
        · exact List.pairwise_of_forall_mem_list fun _ _ line hline _ => hempty line hline

/-! ### Texts in order -/

def InOrder : List (List Char) → List Char → Prop
  | [], _ => True
  | field :: fields, cs => ∃ before after, cs = before ++ (field ++ after) ∧ InOrder fields after

theorem InOrder.append_left {fields : List (List Char)} (h : InOrder fields cs) (front : List Char) :
    InOrder fields (front ++ cs) := by
  cases fields with
  | nil => trivial
  | cons field fields =>
    obtain ⟨before, after, rfl, hafter⟩ := h
    exact ⟨front ++ before, after, by simp, hafter⟩

/-- What a field in a struct's line is like: it starts and ends with no blank and has no braces. -/
structure IsField (field : List Char) : Prop where
  head : ∃ c, field.head? = some c ∧ Text.isBlank c = false
  last : ∃ c, field.getLast? = some c ∧ Text.isBlank c = false
  opening_not_mem : '{' ∉ field
  closing_not_mem : '}' ∉ field
  length : 3 ≤ field.length

/-- A text in which no field can start. -/
def Barren (front : List Char) : Prop := ∀ c ∈ front, Text.isBlank c = true ∨ c = '{' ∨ c = '}'

variable {field front after : List Char} {fields more : List (List Char)}

theorem IsField.head_not_mem (h : IsField field) (hfront : Barren front) : ∃ c rest, field = c :: rest ∧ c ∉ front := by
  obtain ⟨c, hc, hblank⟩ := h.head
  obtain ⟨rest, rfl⟩ := List.head?_eq_some_iff.1 hc
  refine ⟨c, rest, rfl, fun hmem => ?_⟩
  rcases hfront c hmem with hc | rfl | rfl
  · rw [hblank] at hc
    cases hc
  · exact h.opening_not_mem (by simp)
  · exact h.closing_not_mem (by simp)

theorem IsField.split (h : IsField field) (hfront : Barren front) {before : List Char}
    (heq : front ++ cs = before ++ (field ++ after)) : ∃ mid, before = front ++ mid ∧ cs = mid ++ (field ++ after) := by
  obtain ⟨c, rest, rfl, hc⟩ := h.head_not_mem hfront
  obtain ⟨mid, rfl, hmid⟩ | ⟨mid, rfl, hmid⟩ := List.append_eq_append_iff.1 heq
  · exact ⟨mid, rfl, hmid⟩
  · cases mid with
    | nil => exact ⟨[], by simp, by simpa using hmid.symm⟩
    | cons d mid =>
      obtain rfl : c = d := (List.cons.inj hmid).1
      exact absurd (by simp) hc

theorem inOrder_cons_iff (h : IsField field) (hfront : Barren front) :
    InOrder (field :: fields) (front ++ (field ++ after)) ↔ InOrder fields after := by
  constructor
  · rintro ⟨before, after', heq, hafter'⟩
    obtain ⟨mid, -, hmid⟩ := h.split hfront heq
    have hlength := congrArg List.length hmid
    simp only [List.length_append] at hlength
    have hsuffix : after' <:+ field ++ after := ⟨mid ++ field, by rw [hmid, List.append_assoc]⟩
    obtain ⟨skipped, rfl⟩ := List.suffix_of_suffix_length_le hsuffix (List.suffix_append field after) (by omega)
    exact hafter'.append_left skipped
  · exact fun hafter => ⟨front, after, rfl, hafter⟩

/-- A text in which no field can start, by a check that can be run. -/
theorem barren_of_all (h : front.all (fun c => Text.isBlank c || c == '{' || c == '}') = true) : Barren front := by
  intro c hc
  simpa [or_assoc] using List.all_eq_true.1 h c hc

theorem barren_space : Barren [' '] := barren_of_all (by decide)

theorem inOrder_joinWith_iff (hne : fields ≠ []) (hfields : ∀ field ∈ fields, IsField field) (hfront : Barren front) :
    InOrder (fields ++ more) (front ++ (Text.joinWith [' '] fields ++ after)) ↔ InOrder more after := by
  induction fields generalizing front with
  | nil => exact absurd rfl hne
  | cons field fields ih =>
    have hfield : IsField field := hfields field (by simp)
    cases fields with
    | nil => rw [Text.joinWith_singleton, List.singleton_append, inOrder_cons_iff hfield hfront]
    | cons field' fields =>
      rw [Text.joinWith_cons_cons, List.cons_append, List.append_assoc, inOrder_cons_iff hfield hfront, List.append_assoc,
        ih (by simp) (fun f hf => hfields f (by simp [hf])) barren_space]

theorem not_inOrder_barren (hne : fields ≠ []) (hfields : ∀ field ∈ fields, IsField field) (hcs : Barren cs) :
    ¬InOrder fields cs := by
  obtain ⟨field, fields, rfl⟩ := List.exists_cons_of_ne_nil hne
  rintro ⟨before, after, rfl, -⟩
  obtain ⟨c, rest, rfl, hc⟩ := (hfields field (by simp)).head_not_mem hcs
  exact hc (by simp)

/-- A field of which the last three characters are replaced by dots is shown only if they are dots. -/
theorem inOrder_cut_iff (h : IsField field) (hfront : Barren front) :
    InOrder [field] (front ++ (field.take (field.length - 3) ++ ['.', '.', '.', ' ', '}'])) ↔
      ['.', '.', '.'] <:+ field := by
  have hlength : (field.take (field.length - 3)).length + 3 = field.length := by
    have := h.length
    simp only [List.length_take]
    omega
  constructor
  · rintro ⟨before, after, heq, -⟩
    obtain ⟨mid, -, hmid⟩ := h.split hfront heq
    generalize field.take (field.length - 3) = kept at hlength hmid
    obtain ⟨c, hlast, hblank⟩ := h.last
    obtain ⟨start, rfl⟩ := List.getLast?_eq_some_iff.1 hlast
    have hlengths := congrArg List.length hmid
    have hends := congrArg List.reverse hmid
    -- there is room for the field to start later, but it ends neither in a brace nor in a blank
    rcases after with _ | ⟨x, _ | ⟨y, after⟩⟩
    · have hc : '}' = c := by
        simp at hends
        exact hends.1
      exact absurd (by rw [hc]; simp) h.closing_not_mem
    · have hc : ' ' = c := by
        simp at hends
        exact hends.2.1
      rw [← hc] at hblank
      exact absurd hblank (by decide)
    · simp only [List.length_append, List.length_cons, List.length_nil] at hlengths hlength
      obtain rfl := List.length_eq_zero_iff.1 (show mid.length = 0 by omega)
      obtain rfl := List.length_eq_zero_iff.1 (show after.length = 0 by omega)
      have hcut : kept ++ ['.', '.', '.'] ++ [' ', '}'] = start ++ [c] ++ [x, y] := by simpa using hmid
      exact ⟨kept, (List.append_inj' hcut rfl).1⟩
  · rintro ⟨kept, rfl⟩
    refine ⟨front, [' ', '}'], ?_, trivial⟩
    simp

/-! ### The line of a struct -/

/-- The body of a struct whose lines have at least a name and a type each, or nothing, besides comments, and whose fields
fit into the line. -/
structure FieldLines (body : List Char) : Prop where
  opening_not_mem : '{' ∉ body
  closing_not_mem : '}' ∉ body
  noBlockComment : ∀ line ∈ Text.splitOn '\n' body, ¬['/', '*'] <:+: beforeLineComment line
  named : ∀ line ∈ Text.splitOn '\n' body, (Text.words (beforeLineComment line)).length ≠ 1
  fits : (Text.joinWith [' '] (fieldsOf body)).length ≤ fieldsLimit

/-- Whether the line of a struct has the fields in order behind the name. -/
def ShowsFields (name : List Char) (fields : List (List Char)) (line : String) : Prop :=
  ∃ rest, line.toList = "struct ".toList ++ (name ++ rest) ∧ InOrder fields rest

theorem beforeLineComment_isPrefix (cs : List Char) : beforeLineComment cs <+: cs := by
  rcases comment_cases cs with ⟨-, heq⟩ | ⟨rest, heq, -⟩
  · exact ⟨[], by rw [List.append_nil, heq]⟩
  · exact ⟨_, heq.symm⟩

theorem length_lineField {line : List Char} (h : lineField line ≠ [])
    (hnamed : (Text.words (beforeLineComment line)).length ≠ 1) : 3 ≤ (lineField line).length := by
  have hwords : ∀ w ∈ Text.words (beforeLineComment line), w ≠ [] := fun _ => Text.ne_nil_of_mem_words
  rw [lineField, Text.squeezed] at h ⊢
  rcases hw : Text.words (beforeLineComment line) with _ | ⟨v, _ | ⟨w, ws⟩⟩
  · rw [hw] at h
    exact absurd rfl h
  · rw [hw] at hnamed
    exact absurd rfl hnamed
  · rw [hw] at hwords
    have hv := List.length_pos_iff.2 (hwords v (by simp))
    have hw' := List.length_pos_iff.2 (hwords w (by simp))
    have hrest : 0 < (Text.joinWith [' '] (w :: ws)).length := by
      rw [List.length_pos_iff, ne_eq, Text.joinWith_eq_nil_iff fun q hq => hwords q (by simp [hq])]
      simp
    rw [Text.joinWith_cons_cons, List.length_append, List.length_append, List.length_singleton]
    omega

theorem FieldLines.isField (h : FieldLines body) {field : List Char} (hfield : field ∈ fieldsOf body) :
    IsField field := by
  obtain ⟨hmem, hne⟩ := List.mem_filter.1 hfield
  obtain ⟨line, hline, rfl⟩ := List.mem_map.1 hmem
  have hne : lineField line ≠ [] := by simpa using hne
  have hbody : ∀ c ∈ lineField line, c = ' ' ∨ c ∈ body := fun c hc =>
    (Text.mem_of_mem_squeezed hc).imp_right fun hc =>
      (Text.isInfix_of_mem_splitOn hline).subset ((beforeLineComment_isPrefix line).subset hc)
  obtain ⟨c, hc⟩ := Option.ne_none_iff_exists'.1 (mt List.head?_eq_none_iff.1 hne)
  obtain ⟨d, hd⟩ := Option.ne_none_iff_exists'.1 (mt List.getLast?_eq_none_iff.1 hne)
  exact ⟨⟨c, hc, Text.not_blank_of_head?_squeezed hc⟩, ⟨d, hd, Text.not_blank_of_getLast?_squeezed hd⟩,
    fun hmem => (hbody _ hmem).elim (by decide) h.opening_not_mem,
    fun hmem => (hbody _ hmem).elim (by decide) h.closing_not_mem, length_lineField hne (h.named line hline)⟩

theorem FieldLines.noBlockComment_code (h : FieldLines body) : ¬['/', '*'] <:+: beforeLineComment body := by
  intro hoccurs
  rw [← Text.joinWith_splitOn '\n' (beforeLineComment body)] at hoccurs
  obtain ⟨line, hline, hmark⟩ := Text.exists_isInfix_of_joinWith (by simp) (by decide) hoccurs
  rcases lines_cases body with ⟨hnone, heq⟩ | ⟨init, last, comment, later, hshown, hlines, hinit, hlast⟩
  · rw [heq] at hline
    have hline' : ¬['/', '/'] <:+: line := fun hcomment => hnone (hcomment.trans (Text.isInfix_of_mem_splitOn hline))
    exact h.noBlockComment line hline (by rwa [beforeLineComment_of_not_isInfix hline'])
  · rw [hshown, List.mem_append, List.mem_singleton] at hline
    rcases hline with hline | rfl
    · exact h.noBlockComment line (by simp [hlines, hline]) (by rwa [beforeLineComment_of_not_isInfix (hinit line hline)])
    · exact h.noBlockComment (line ++ '/' :: '/' :: comment) (by simp [hlines]) (by rwa [beforeLineComment_append hlast])

def braced (text : List Char) : List Char :=
  if text = [] then [] else [' ', '{', ' '] ++ (text ++ [' ', '}'])

theorem showsFields_structText_iff (name body : List Char) (fields : List (List Char)) :
    ShowsFields name fields (structText name body) ↔ InOrder fields (braced (fieldsText body)) := by
  have htext : (structText name body).toList = "struct ".toList ++ (name ++ braced (fieldsText body)) := by
    unfold structText braced
    cases fieldsText body with
    | nil => simp
    | cons c fs => simp
  constructor
  · rintro ⟨rest, hrest, horder⟩
    rw [htext] at hrest
    rwa [List.append_cancel_left (List.append_cancel_left hrest)]
  · exact fun horder => ⟨_, htext, horder⟩

theorem Barren.append {front' : List Char} (h : Barren front) (h' : Barren front') : Barren (front ++ front') := by
  intro c hc
  exact (List.mem_append.1 hc).elim (h c) (h' c)

theorem barren_opening : Barren [' ', '{', ' '] := barren_of_all (by decide)

theorem barren_closing : Barren [' ', '}'] := barren_of_all (by decide)

theorem Barren.braced {gap : List Char} (h : Barren gap) : Barren (braced gap) := by
  unfold Package.braced
  split_ifs
  · simp [Barren]
  · exact barren_opening.append (h.append barren_closing)

section Shown

variable {shown hidden : List (List Char)} (hshown : ∀ field ∈ shown, IsField field)
include hshown

/-- A line that is not cut has the fields before the first comment and no others. -/
theorem inOrder_braced_iff {gap : List Char} (hgap : Barren gap) (hhidden : ∀ field ∈ hidden, IsField field) :
    InOrder (shown ++ hidden) (braced (Text.joinWith [' '] shown ++ gap)) ↔ hidden = [] := by
  have hbarren : ∀ cs, Barren cs → (InOrder hidden cs ↔ hidden = []) := by
    intro cs hcs
    constructor
    · intro horder
      by_contra hne
      exact not_inOrder_barren hne hhidden hcs horder
    · rintro rfl
      trivial
  by_cases hne : shown = []
  · subst hne
    exact hbarren _ hgap.braced
  · have htext : Text.joinWith [' '] shown ++ gap ≠ [] := by
      have hfilled : ∀ q ∈ shown, q ≠ [] := fun q hq =>
        List.ne_nil_of_length_pos (Nat.lt_of_lt_of_le (by decide) (hshown q hq).length)
      have hjoined : Text.joinWith [' '] shown ≠ [] := by rwa [ne_eq, Text.joinWith_eq_nil_iff hfilled]
      simp [hjoined]
    rw [braced, if_neg htext, List.append_assoc, inOrder_joinWith_iff hne hshown barren_opening]
    exact hbarren _ (hgap.append barren_closing)

theorem exists_last_field (hne : shown ≠ []) :
    ∃ before last front, Text.joinWith [' '] shown = before ++ last ∧ IsField last ∧ Barren front ∧
      ∀ cs, InOrder shown ([' ', '{', ' '] ++ (before ++ cs)) ↔ InOrder [last] (front ++ cs) := by
  obtain ⟨init, last, rfl⟩ := (List.eq_nil_or_concat' shown).resolve_left hne
  have hlast : IsField last := hshown last (by simp)
  by_cases hinit : init = []
  · subst hinit
    exact ⟨[], last, [' ', '{', ' '], Text.joinWith_singleton .., hlast, barren_opening, fun cs => Iff.rfl⟩
  · refine ⟨Text.joinWith [' '] init ++ [' '], last, [' '], ?_, hlast, barren_space, fun cs => ?_⟩
    · rw [Text.joinWith_append hinit (by simp), Text.joinWith_singleton, List.append_assoc]
    · rw [List.append_assoc, inOrder_joinWith_iff hinit (fun f hf => hshown f (by simp [hf])) barren_opening]

/-- A line that is cut has the fields only if they end in the dots that it is cut with. -/
theorem inOrder_cut_joinWith_iff (hlength : (Text.joinWith [' '] shown).length = fieldsLimit) :
    InOrder shown (braced ((Text.joinWith [' '] shown).take (fieldsLimit - 3) ++ ['.', '.', '.'])) ↔
      ['.', '.', '.'] <:+ Text.joinWith [' '] shown := by
  have hne : shown ≠ [] := by
    rintro rfl
    exact absurd hlength (by decide)
  obtain ⟨before, last, front, hjoined, hlast, hfront, horder⟩ := exists_last_field hshown hne
  have hlong := hlast.length
  rw [← hlength, hjoined]
  have htake : (before ++ last).take ((before ++ last).length - 3) = before ++ last.take (last.length - 3) := by
    rw [List.take_append, List.length_append, List.take_of_length_le (by omega)]
    congr 2
    omega
  have hdots : ['.', '.', '.'] <:+ before ++ last ↔ ['.', '.', '.'] <:+ last :=
    ⟨fun h => List.suffix_of_suffix_length_le h (List.suffix_append before last) (by simpa using hlong),
      fun h => h.trans (List.suffix_append before last)⟩
  rw [htake, hdots, ← inOrder_cut_iff hlast hfront, ← horder, braced, if_neg (by simp)]
  simp only [List.append_assoc, List.cons_append, List.nil_append]

end Shown

theorem barren_leftover (body : List Char) : Barren (leftover body) := by
  rcases leftover_eq body with hnone | hspace
  · rw [hnone]
    simp [Barren]
  · rw [hspace]
    exact barren_space

/-- The line of a struct shows its fields exactly if no field stands behind a comment, and the text is not cut for the
space in front of one. -/
theorem showsFields_iff (h : FieldLines body) (name : List Char) :
    ShowsFields name (fieldsOf body) (structText name body) ↔
      CommentsLast body ∧ ((Text.joinWith [' '] (fieldsOf body)).length + (leftover body).length ≤ fieldsLimit ∨
        ['.', '.', '.'] <:+ Text.joinWith [' '] (fieldsOf body)) := by
  obtain ⟨hidden, hfields, hlast⟩ := exists_hiddenFields body
  have hshown : ∀ field ∈ shownFields body, IsField field := fun f hf => h.isField (by simp [hfields, hf])
  have hhidden : ∀ field ∈ hidden, IsField field := fun f hf => h.isField (by simp [hfields, hf])
  have hfits := h.fits
  rw [showsFields_structText_iff, fieldsText_eq h.noBlockComment_code, ← joinWith_shownFields, hlast, hfields]
  rw [hfields] at hfits
  have hwhole := inOrder_braced_iff hshown (barren_leftover body) hhidden
  have hgap : (leftover body).length ≤ 1 := by
    rcases leftover_eq body with hnone | hspace <;> simp [*]
  by_cases hnone : hidden = []
  · rw [hnone, List.append_nil] at hfits hwhole ⊢
    by_cases hshort : (Text.joinWith [' '] (shownFields body)).length + (leftover body).length ≤ fieldsLimit
    · rw [shortened, if_neg (by rw [List.length_append]; omega)]
      exact iff_of_true (hwhole.2 rfl) ⟨rfl, .inl hshort⟩
    · -- the fields take up the whole line, and the space behind them is too much
      have hlength : (Text.joinWith [' '] (shownFields body)).length = fieldsLimit := by omega
      have htake : (Text.joinWith [' '] (shownFields body) ++ leftover body).take (fieldsLimit - 3) =
          (Text.joinWith [' '] (shownFields body)).take (fieldsLimit - 3) :=
        List.take_append_of_le_length (by omega)
      rw [shortened, if_pos (by rw [List.length_append]; omega), htake, inOrder_cut_joinWith_iff hshown hlength]
      simp [hshort]
  · have hshort : ¬fieldsLimit < (Text.joinWith [' '] (shownFields body) ++ leftover body).length := by
      rw [List.length_append]
      by_cases hempty : shownFields body = []
      · have hlimit : fieldsLimit = 120 := rfl
        rw [hempty, show Text.joinWith [' '] [] = [] from rfl, List.length_nil]
        omega
      · rw [Text.joinWith_append hempty hnone] at hfits
        simp only [List.length_append, List.length_singleton] at hfits
        omega
    rw [shortened, if_neg hshort]
    exact iff_of_false (mt hwhole.1 hnone) fun hboth => hnone hboth.1

/-- Without a symbol server the outline has the line of every declared struct, and this shows the fields of the struct
exactly if none stands behind a comment and the text is not cut for the space in front of one. -/
theorem struct_line_shows_fields_iff {source : String} (d : Declaration source.toList) (h : FieldLines d.body) :
    structText d.name d.body ∈ outline .absent (some source) ∧
      (ShowsFields d.name (fieldsOf d.body) (structText d.name d.body) ↔
        CommentsLast d.body ∧
          ((Text.joinWith [' '] (fieldsOf d.body)).length + (leftover d.body).length ≤ fieldsLimit ∨
            ['.', '.', '.'] <:+ Text.joinWith [' '] (fieldsOf d.body))) := by
  refine ⟨?_, showsFields_iff h d.name⟩
  apply (Text.sort_perm _).mem_iff.2
  exact List.mem_append_right _ (List.mem_map.2 ⟨(d.name, d.body), mem_findAll_struct? d, rfl⟩)

/-- A struct in a package behind another one, with a comment on the first of its two fields. -/
def commentedPackage : String :=
  "package p\n\ntype B struct \x7b\n\tZ int\n\x7d\n\ntype A struct \x7b\n\tX int // first\n\tY int\n\x7d\n"

def commentedStruct : Declaration commentedPackage.toList where
  before := "package p\n\ntype B struct \x7b\n\tZ int\n\x7d\n\n".toList
  header := "type A struct ".toList
  name := ['A']
  body := "\n\tX int // first\n\tY int\n".toList
  after := ['\n']
  eq_append := by decide +kernel
  isHeader := by
    refine ⟨⟨'A', [], rfl, by decide, by decide, by simp⟩, [' '], [' '], [' '], by simp, by simp, ?_, ?_, ?_, rfl⟩
    all_goals simp [isSourceBlank]
  closing_not_mem := by decide +kernel
  structsClosed :=
    @structsClosed_append "package p\n\ntype B struct \x7b\n\tZ int\n".toList ['\n', '\n'] (by decide)

theorem comment_hides_later_field :
    FieldLines commentedStruct.body ∧
      structText commentedStruct.name commentedStruct.body ∈ outline .absent (some commentedPackage) ∧
      ¬ShowsFields commentedStruct.name (fieldsOf commentedStruct.body)
        (structText commentedStruct.name commentedStruct.body) := by
  have hlines : FieldLines commentedStruct.body := by
    constructor <;> decide +kernel
  have hcomments : ¬CommentsLast commentedStruct.body := by decide +kernel
  obtain ⟨hmem, hiff⟩ := struct_line_shows_fields_iff commentedStruct hlines
  exact ⟨hlines, hmem, fun hshows => hcomments (hiff.1 hshows).1⟩

end IssuePlanner.Outline.Package
