import IssuePlanner.Proofs.Data.Entries
import IssuePlanner.Proofs.Data.Lexeme

/-! Reading is local: what a value is read as depends on its own text alone (`exists_of_value`). -/

namespace IssuePlanner.Data.Reader

variable {place n : Nat} {ch : Char} {cs sp x y r tail : List Char} {s : String} {d : Datum} {c c' : Cursor}
  {xs : List Datum} {es out : List (String × Datum)}

/-! ### Space and delimiters -/

def Blank (sp : List Char) : Prop := ∀ ch ∈ sp, isSpace ch = true

def Begins (cs : List Char) : Prop := ∀ ch ∈ cs.head?, isSpace ch = false

theorem blank_nil : Blank [] := fun _ h => (nomatch h)

theorem begins_cons (hch : isSpace ch = false) (r : List Char) : Begins (ch :: r) := by
  intro a ha
  obtain rfl : ch = a := Option.some.inj ha
  exact hch

theorem begins_append_iff (hy : y ≠ []) : Begins (y ++ tail) ↔ Begins y := by
  obtain ⟨a, y, rfl⟩ := List.exists_cons_of_ne_nil hy
  exact Iff.rfl

theorem skipSpace_append (place : Nat) (hsp : Blank sp) (h : Begins tail) :
    (Cursor.mk place (sp ++ tail)).skipSpace = ⟨place + sp.length, tail⟩ := by
  have hnone : tail.takeWhile isSpace = [] := by
    cases tail with
    | nil => rfl
    | cons a t => simp [h a rfl]
  rw [Cursor.skipSpace, List.takeWhile_append_of_pos hsp, hnone, List.append_nil, advance_append]

theorem exists_skipSpace (c : Cursor) :
    ∃ sp t, Blank sp ∧ Begins t ∧ c.rest = sp ++ t ∧ c.skipSpace = ⟨c.place + sp.length, t⟩ := by
  have hsplit : c.rest = c.rest.takeWhile isSpace ++ c.rest.dropWhile isSpace := List.takeWhile_append_dropWhile.symm
  have hblank : Blank (c.rest.takeWhile isSpace) := fun ch hch => List.all_eq_true.1 List.all_takeWhile ch hch
  have hbegins : Begins (c.rest.dropWhile isSpace) := fun ch hch => by
    have := List.head?_dropWhile_not isSpace c.rest
    rw [Option.mem_def.1 hch] at this
    simpa using this
  refine ⟨_, _, hblank, hbegins, hsplit, ?_⟩
  rw [← skipSpace_append c.place hblank hbegins, ← hsplit]

/-- The cursor right after a delimiter, which space may precede. -/
def Past (ch : Char) (c c' : Cursor) : Prop :=
  ∃ sp t, Blank sp ∧ c.rest = sp ++ ch :: t ∧ c' = ⟨c.place + (sp.length + 1), t⟩

theorem past_iff (hch : isSpace ch = false) :
    Past ch c c' ↔ (∃ t, c.skipSpace.rest = ch :: t) ∧ c' = c.skipSpace.advance 1 := by
  constructor
  · rintro ⟨sp, t, hsp, hrest, rfl⟩
    have hskip : c.skipSpace = ⟨c.place + sp.length, ch :: t⟩ := by
      rw [← skipSpace_append c.place hsp (begins_cons hch t), ← hrest]
    exact ⟨⟨t, by rw [hskip]⟩, by rw [hskip]; rfl⟩
  · rintro ⟨⟨t, ht⟩, rfl⟩
    obtain ⟨sp, t', hsp, -, hrest, hskip⟩ := exists_skipSpace c
    obtain rfl : t' = ch :: t := by rwa [hskip] at ht
    exact ⟨sp, t, hsp, hrest, by rw [hskip]; rfl⟩

theorem stops_delimiter (hsp : Blank sp) (hch : ch = ',' ∨ ch = ']' ∨ ch = '\x7d') : Stops (sp ++ ch :: tail) := by
  cases sp with
  | nil =>
    intro a ha
    obtain rfl : ch = a := Option.some.inj ha
    rcases hch with rfl | rfl | rfl <;> decide
  | cons b sp =>
    intro a ha
    obtain rfl : b = a := Option.some.inj ha
    have hb := hsp b List.mem_cons_self
    simp only [isSpace, Bool.or_eq_true, decide_eq_true_eq] at hb
    rcases hb with ((rfl | rfl) | rfl) | rfl <;> decide

/-! ### One step of each reader -/

theorem bind_eq_ok_iff {ε α β γ : Type} {m : Except ε (α × β)} {f : α × β → Except ε γ} {b : γ} :
    (m >>= f) = .ok b ↔ ∃ x y, m = .ok (x, y) ∧ f (x, y) = .ok b := by
  cases m with
  | error e => exact ⟨fun h => (nomatch h), fun ⟨_, _, h, _⟩ => (nomatch h)⟩
  | ok a => exact ⟨fun h => ⟨a.1, a.2, rfl, h⟩, fun ⟨_, _, ha, h⟩ => Except.ok.inj ha ▸ h⟩

theorem value_quote_iff : value (n + 1) ⟨place, '"' :: r⟩ = .ok (d, c) ↔
    ∃ s, string place [] 0 (place + 1) r = .ok (s, c) ∧ d = .text s := by
  simp only [value]
  rw [bind_eq_ok_iff]
  constructor
  · rintro ⟨s, _, hs, h⟩
    obtain ⟨rfl, rfl⟩ := Prod.mk.inj (Except.ok.inj h)
    exact ⟨s, hs, rfl⟩
  · rintro ⟨s, hs, rfl⟩
    exact ⟨s, c, hs, rfl⟩

theorem value_bracket_iff : value (n + 1) ⟨place, '[' :: r⟩ = .ok (d, c) ↔
    (Past ']' ⟨place + 1, r⟩ c ∧ d = .list []) ∨
      ((∀ c', ¬Past ']' ⟨place + 1, r⟩ c') ∧
        ∃ xs, elements n (Cursor.mk (place + 1) r).skipSpace = .ok (xs, c) ∧ d = .list xs) := by
  have hadvance : (Cursor.mk place ('[' :: r)).advance 1 = ⟨place + 1, r⟩ := rfl
  simp only [value, hadvance, past_iff (show isSpace ']' = false by decide)]
  split
  · rename_i t ht
    constructor
    · intro h
      obtain ⟨rfl, rfl⟩ := Prod.mk.inj (Except.ok.inj h)
      exact .inl ⟨⟨⟨t, ht⟩, rfl⟩, rfl⟩
    · rintro (⟨⟨-, rfl⟩, rfl⟩ | ⟨hopen, -⟩)
      · rfl
      · exact absurd ⟨⟨t, ht⟩, rfl⟩ (hopen _)
  · rename_i hopen
    rw [bind_eq_ok_iff]
    constructor
    · rintro ⟨xs, _, hxs, h⟩
      obtain ⟨rfl, rfl⟩ := Prod.mk.inj (Except.ok.inj h)
      exact .inr ⟨fun _ hc => hc.1.elim hopen, xs, hxs, rfl⟩
    · rintro (⟨⟨⟨t, ht⟩, -⟩, -⟩ | ⟨-, xs, hxs, rfl⟩)
      · exact (hopen t ht).elim
      · exact ⟨xs, c, hxs, rfl⟩

theorem value_brace_iff : value (n + 1) ⟨place, '\x7b' :: r⟩ = .ok (d, c) ↔
    (Past '\x7d' ⟨place + 1, r⟩ c ∧ d = .dict []) ∨
      ((∀ c', ¬Past '\x7d' ⟨place + 1, r⟩ c') ∧
        ∃ es, members n (Cursor.mk (place + 1) r).skipSpace [] = .ok (es, c) ∧ d = .dict es) := by
  have hadvance : (Cursor.mk place ('\x7b' :: r)).advance 1 = ⟨place + 1, r⟩ := rfl
  simp only [value, hadvance, past_iff (show isSpace '\x7d' = false by decide)]
  split
  · rename_i t ht
    constructor
    · intro h
      obtain ⟨rfl, rfl⟩ := Prod.mk.inj (Except.ok.inj h)
      exact .inl ⟨⟨⟨t, ht⟩, rfl⟩, rfl⟩
    · rintro (⟨⟨-, rfl⟩, rfl⟩ | ⟨hopen, -⟩)
      · rfl
      · exact absurd ⟨⟨t, ht⟩, rfl⟩ (hopen _)
  · rename_i hopen
    rw [bind_eq_ok_iff]
    constructor
    · rintro ⟨es, _, hes, h⟩
      obtain ⟨rfl, rfl⟩ := Prod.mk.inj (Except.ok.inj h)
      exact .inr ⟨fun _ hc => hc.1.elim hopen, es, hes, rfl⟩
    · rintro (⟨⟨⟨t, ht⟩, -⟩, -⟩ | ⟨-, es, hes, rfl⟩)
      · exact (hopen t ht).elim
      · exact ⟨es, c, hes, rfl⟩

theorem value_bare_iff (hquote : cs.head? ≠ some '"') (hbracket : cs.head? ≠ some '[')
    (hbrace : cs.head? ≠ some '\x7b') : value (n + 1) ⟨place, cs⟩ = .ok (d, c) ↔
      constant? ⟨place, cs⟩ = some (d, c) ∨ constant? ⟨place, cs⟩ = none ∧ number ⟨place, cs⟩ = .ok (d, c) := by
  rw [value]
  split
  · exact absurd (congrArg List.head? ‹_›) hquote
  · exact absurd (congrArg List.head? ‹_›) hbracket
  · exact absurd (congrArg List.head? ‹_›) hbrace
  · cases constant? ⟨place, cs⟩ with
    | none => simp
    | some a => simp

theorem elements_iff : elements (n + 1) c = .ok (xs, c') ↔ ∃ x c₁, value n c = .ok (x, c₁) ∧
    ((Past ']' c₁ c' ∧ xs = [x]) ∨
      ∃ c₂ ys, Past ',' c₁ c₂ ∧ elements n c₂.skipSpace = .ok (ys, c') ∧ xs = x :: ys) := by
  rw [elements, bind_eq_ok_iff]
  simp only [past_iff (show isSpace ']' = false by decide), past_iff (show isSpace ',' = false by decide)]
  refine exists_congr fun x => exists_congr fun c₁ => and_congr_right fun _ => ?_
  split
  · rename_i t ht
    change Except.ok ([x], c₁.skipSpace.advance 1) = _ ↔ _
    simp [ht, eq_comm, and_comm]
  · rename_i t ht
    rw [bind_eq_ok_iff]
    constructor
    · rintro ⟨ys, _, hys, h⟩
      obtain ⟨rfl, rfl⟩ := Prod.mk.inj (Except.ok.inj h)
      exact .inr ⟨_, ys, ⟨⟨t, ht⟩, rfl⟩, hys, rfl⟩
    · rintro (⟨⟨⟨t', ht'⟩, -⟩, -⟩ | ⟨_, ys, ⟨-, rfl⟩, hys, rfl⟩)
      · exact absurd (List.cons.inj (ht.symm.trans ht')).1 (by decide)
      · exact ⟨ys, c', hys, rfl⟩
  · rename_i hend hcomma
    constructor
    · exact fun h => (nomatch h)
    · rintro (⟨⟨⟨t, ht⟩, -⟩, -⟩ | ⟨_, _, ⟨⟨t, ht⟩, -⟩, -⟩)
      · exact (hend t ht).elim
      · exact (hcomma t ht).elim

theorem members_iff : members (n + 1) ⟨place, cs⟩ es = .ok (out, c') ↔ ∃ r key c₁ c₂ x c₃,
    cs = '"' :: r ∧ string place [] 0 (place + 1) r = .ok (key, c₁) ∧ Past ':' c₁ c₂ ∧
      value n c₂.skipSpace = .ok (x, c₃) ∧
        ((Past '\x7d' c₃ c' ∧ out = Entries.put key x es) ∨
          ∃ c₄, Past ',' c₃ c₄ ∧ members n c₄.skipSpace (Entries.put key x es) = .ok (out, c')) := by
  simp only [past_iff (show isSpace ':' = false by decide), past_iff (show isSpace '\x7d' = false by decide),
    past_iff (show isSpace ',' = false by decide)]
  rw [members]
  split
  · rename_i r hcs
    rw [bind_eq_ok_iff]
    constructor
    · rintro ⟨key, c₁, hkey, h⟩
      dsimp only at h
      split at h
      · rename_i t ht
        obtain ⟨x, c₃, hx, h⟩ := bind_eq_ok_iff.1 h
        refine ⟨r, key, c₁, _, x, c₃, hcs, hkey, ⟨⟨t, ht⟩, rfl⟩, hx, ?_⟩
        dsimp only at h
        split at h
        · rename_i t' ht'
          obtain ⟨rfl, rfl⟩ := Prod.mk.inj (Except.ok.inj h)
          exact .inl ⟨⟨⟨t', ht'⟩, rfl⟩, rfl⟩
        · rename_i t' ht'
          exact .inr ⟨_, ⟨⟨t', ht'⟩, rfl⟩, h⟩
        · cases h
      · cases h
    · rintro ⟨r', key, c₁, c₂, x, c₃, hr, hkey, ⟨⟨t, ht⟩, rfl⟩, hx, hrest⟩
      obtain rfl : r = r' := (List.cons.inj (hcs.symm.trans hr)).2
      refine ⟨key, c₁, hkey, ?_⟩
      simp only [ht]
      refine bind_eq_ok_iff.2 ⟨x, c₃, hx, ?_⟩
      rcases hrest with ⟨⟨⟨t', ht'⟩, rfl⟩, rfl⟩ | ⟨_, ⟨⟨t', ht'⟩, rfl⟩, h⟩
      · simp only [ht']
        rfl
      · simp only [ht', h]
  · rename_i hcs
    constructor
    · exact fun h => (nomatch h)
    · rintro ⟨r, -, -, -, -, -, hr, -⟩
      exact (hcs r hr).elim

/-! ### Texts of values -/

/-- The text of the value shows by itself where it is over. -/
def SelfDelimiting : Datum → Prop
  | .text _ | .list _ | .dict _ => True
  | _ => False

/-- The texts directly in a value are shorter than the given length. -/
def TextsBelow (k : Nat) : Datum → Prop
  | .text s => s.length < k
  | .dict es => ∀ e ∈ es, ∀ s, e.2 = .text s → s.length < k
  | _ => True

/-- The text is read as the rest of a string, wherever it stands. -/
def ReadString (k : List Char) (key : String) : Prop :=
  ∀ start place tail, string start [] 0 place (k ++ tail) = .ok (key, ⟨place + k.length, tail⟩)

/-- The text is read as the value wherever it stands, with two steps for each character. -/
structure Read (x : List Char) (d : Datum) : Prop where
  ne_nil : x ≠ []
  braced : ∀ es, d = .dict es → x.head? = some '\x7b' ∧ x.getLast? = some '\x7d'
  texts : TextsBelow x.length d
  value_eq : ∀ n place tail, 2 * x.length ≤ n → SelfDelimiting d ∨ Stops tail →
    value n ⟨place, x ++ tail⟩ = .ok (d, ⟨place + x.length, tail⟩)

structure ReadElements (y : List Char) (xs : List Datum) : Prop where
  ne_nil : y ≠ []
  elements_eq : ∀ n place tail, 2 * y.length ≤ n →
    elements n ⟨place, y ++ tail⟩ = .ok (xs, ⟨place + y.length, tail⟩)

structure ReadMembers (y : List Char) (es out : List (String × Datum)) : Prop where
  opened : y.head? = some '"'
  closed : y.getLast? = some '\x7d'
  texts : ∀ e ∈ out, e ∈ es ∨ ∀ s, e.2 = .text s → s.length < y.length
  members_eq : ∀ n place tail, 2 * y.length ≤ n →
    members n ⟨place, y ++ tail⟩ es = .ok (out, ⟨place + y.length, tail⟩)

theorem ReadMembers.head? (h : ReadMembers y es out) (tail : List Char) : (y ++ tail).head? = some '"' := by
  rw [List.head?_append, h.opened, Option.some_or]

theorem ReadMembers.begins (h : ReadMembers y es out) (tail : List Char) : Begins (y ++ tail) := by
  obtain ⟨r, hr⟩ := List.head?_eq_some_iff.1 (h.head? tail)
  rw [hr]
  exact begins_cons (by decide) r

theorem exists_succ_of_steps (hx : x ≠ []) (hn : 2 * x.length ≤ n) : ∃ m, n = m + 1 := by
  have := List.length_pos_iff.2 hx
  exact ⟨n - 1, by omega⟩

theorem Read.text (hlen : s.length + 1 ≤ x.length) (hx : ReadString x s) : Read ('"' :: x) (.text s) where
  ne_nil := List.cons_ne_nil _ _
  braced := fun _ hd => (nomatch hd)
  texts := by
    change s.length < x.length + 1
    omega
  value_eq n place tail hn _ := by
    obtain ⟨n, rfl⟩ := exists_succ_of_steps (List.cons_ne_nil _ _) hn
    rw [List.cons_append, value_quote_iff, hx, List.length_cons, Nat.add_right_comm, Nat.add_assoc]
    exact ⟨s, rfl, rfl⟩

theorem Read.listNil (hsp : Blank sp) : Read ('[' :: (sp ++ [']'])) (.list []) where
  ne_nil := List.cons_ne_nil _ _
  braced := fun _ hd => (nomatch hd)
  texts := trivial
  value_eq n place tail hn _ := by
    obtain ⟨n, rfl⟩ := exists_succ_of_steps (List.cons_ne_nil _ _) hn
    rw [List.cons_append, value_bracket_iff]
    refine .inl ⟨⟨sp, tail, hsp, by simp, ?_⟩, rfl⟩
    simp only [List.length_cons, List.length_append, List.length_nil, Cursor.mk.injEq, and_true]
    omega

theorem Read.list (hsp : Blank sp) (hbegins : Begins y) (hhead : y.head? ≠ some ']') (h : ReadElements y xs) :
    Read ('[' :: (sp ++ y)) (.list xs) where
  ne_nil := List.cons_ne_nil _ _
  braced := fun _ hd => (nomatch hd)
  texts := trivial
  value_eq n place tail hn _ := by
    obtain ⟨n, rfl⟩ := exists_succ_of_steps (List.cons_ne_nil _ _) hn
    have hskip := skipSpace_append (place + 1) hsp ((begins_append_iff h.ne_nil).2 hbegins : Begins (y ++ tail))
    rw [List.cons_append, List.append_assoc, value_bracket_iff]
    refine .inr ⟨fun c' hpast => ?_, xs, ?_, rfl⟩
    · obtain ⟨t, ht⟩ := ((past_iff (by decide)).1 hpast).1
      rw [hskip] at ht
      obtain ⟨a, y, rfl⟩ := List.exists_cons_of_ne_nil h.ne_nil
      exact hhead (congrArg List.head? ht)
    · simp only [List.length_cons, List.length_append] at hn ⊢
      rw [hskip, h.elements_eq n _ tail (by omega)]
      simp only [Except.ok.injEq, Prod.mk.injEq, Cursor.mk.injEq, true_and, and_true]
      omega

theorem Read.dictNil (hsp : Blank sp) : Read ('\x7b' :: (sp ++ ['\x7d'])) (.dict []) where
  ne_nil := List.cons_ne_nil _ _
  braced := fun _ _ => ⟨rfl, by simp [List.getLast?_cons]⟩
  texts := fun _ he => (List.not_mem_nil he).elim
  value_eq n place tail hn _ := by
    obtain ⟨n, rfl⟩ := exists_succ_of_steps (List.cons_ne_nil _ _) hn
    rw [List.cons_append, value_brace_iff]
    refine .inl ⟨⟨sp, tail, hsp, by simp, ?_⟩, rfl⟩
    simp only [List.length_cons, List.length_append, List.length_nil, Cursor.mk.injEq, and_true]
    omega

theorem Read.dict (hsp : Blank sp) (h : ReadMembers y [] es) : Read ('\x7b' :: (sp ++ y)) (.dict es) where
  ne_nil := List.cons_ne_nil _ _
  braced := fun _ _ => ⟨rfl, by simp [List.getLast?_cons, h.closed]⟩
  texts := fun e he s hs => by
    have hlen := ((h.texts e he).resolve_left List.not_mem_nil) s hs
    simp only [List.length_cons, List.length_append]
    omega
  value_eq n place tail hn _ := by
    obtain ⟨n, rfl⟩ := exists_succ_of_steps (List.cons_ne_nil _ _) hn
    have hskip := skipSpace_append (place + 1) hsp (h.begins tail)
    rw [List.cons_append, List.append_assoc, value_brace_iff]
    refine .inr ⟨fun c' hpast => ?_, es, ?_, rfl⟩
    · obtain ⟨t, ht⟩ := ((past_iff (by decide)).1 hpast).1
      rw [hskip] at ht
      exact absurd (Option.some.inj ((h.head? tail).symm.trans (congrArg List.head? ht))) (by decide)
    · simp only [List.length_cons, List.length_append] at hn ⊢
      rw [hskip, h.members_eq n _ tail (by omega)]
      simp only [Except.ok.injEq, Prod.mk.injEq, Cursor.mk.injEq, true_and, and_true]
      omega

/-- A word or a number, which only what goes on a number could change. -/
theorem Read.bare (hne : x ≠ []) (hquote : x.head? ≠ some '"') (hbracket : x.head? ≠ some '[')
    (hbrace : x.head? ≠ some '\x7b') (hd : ¬SelfDelimiting d)
    (hx : ∀ place tail, Stops tail → constant? ⟨place, x ++ tail⟩ = some (d, ⟨place + x.length, tail⟩) ∨
      constant? ⟨place, x ++ tail⟩ = none ∧ number ⟨place, x ++ tail⟩ = .ok (d, ⟨place + x.length, tail⟩)) :
    Read x d where
  ne_nil := hne
  braced := fun es hes => absurd (hes ▸ trivial) hd
  texts := by
    cases d <;> first | trivial | exact absurd trivial hd
  value_eq n place tail hn htail := by
    obtain ⟨n, rfl⟩ := exists_succ_of_steps hne hn
    have hhead : (x ++ tail).head? = x.head? := by
      obtain ⟨a, x, rfl⟩ := List.exists_cons_of_ne_nil hne
      rfl
    rw [← hhead] at hquote hbracket hbrace
    exact (value_bare_iff hquote hbracket hbrace).2 (hx place tail (htail.resolve_left hd))

theorem ReadElements.last (h : Read x d) (hsp : Blank sp) : ReadElements (x ++ (sp ++ [']'])) [d] where
  ne_nil := by simp
  elements_eq n place tail hn := by
    obtain ⟨n, rfl⟩ := exists_succ_of_steps (by simp) hn
    simp only [List.length_append, List.length_singleton, List.append_assoc, List.singleton_append] at hn ⊢
    refine elements_iff.2 ⟨d, _, h.value_eq n place _ (by omega) (.inr (stops_delimiter hsp (by simp))), .inl ⟨?_, rfl⟩⟩
    refine ⟨sp, tail, hsp, rfl, ?_⟩
    simp only [Cursor.mk.injEq, and_true]
    omega

theorem ReadElements.cons {sp' : List Char} (h : Read x d) (hsp : Blank sp) (hsp' : Blank sp') (hbegins : Begins y)
    (hy : ReadElements y xs) : ReadElements (x ++ (sp ++ ',' :: (sp' ++ y))) (d :: xs) where
  ne_nil := by simp
  elements_eq n place tail hn := by
    obtain ⟨n, rfl⟩ := exists_succ_of_steps (by simp) hn
    simp only [List.length_append, List.length_cons, List.append_assoc, List.cons_append] at hn ⊢
    refine elements_iff.2 ⟨d, _, h.value_eq n place _ (by omega) (.inr (stops_delimiter hsp (by simp))), .inr ?_⟩
    refine ⟨_, xs, ⟨sp, _, hsp, rfl, rfl⟩, ?_, rfl⟩
    rw [skipSpace_append _ hsp' ((begins_append_iff hy.ne_nil).2 hbegins), hy.elements_eq n _ tail (by omega)]
    simp only [Except.ok.injEq, Prod.mk.injEq, Cursor.mk.injEq, true_and, and_true]
    omega

theorem members_of_entry {k sp' z : List Char} {key : String} (hkey : ReadString k key) (hsp : Blank sp)
    (hsp' : Blank sp') (hx : Read x d) (hbegins : Begins x) (hn : 2 * x.length ≤ n) (hz : Stops z)
    (hrest : ∀ place', place' = place + (k.length + sp.length + sp'.length + x.length + 2) →
      (Past '\x7d' ⟨place', z⟩ c' ∧ out = Entries.put key d es) ∨
        ∃ c₄, Past ',' ⟨place', z⟩ c₄ ∧ members n c₄.skipSpace (Entries.put key d es) = .ok (out, c')) :
    members (n + 1) ⟨place, '"' :: (k ++ (sp ++ ':' :: (sp' ++ (x ++ z))))⟩ es = .ok (out, c') := by
  have hvalue : value n (Cursor.mk (place + 1 + k.length + (sp.length + 1)) (sp' ++ (x ++ z))).skipSpace =
      .ok (d, ⟨place + 1 + k.length + (sp.length + 1) + sp'.length + x.length, z⟩) := by
    rw [skipSpace_append _ hsp' ((begins_append_iff hx.ne_nil).2 hbegins), hx.value_eq n _ z hn (.inr hz)]
  exact members_iff.2 ⟨_, key, _, _, d, _, rfl, hkey place (place + 1) _, ⟨sp, _, hsp, rfl, rfl⟩, hvalue,
    hrest _ (by omega)⟩

theorem texts_put {e : String × Datum} {key : String} (hx : Read x d) (he : e ∈ Entries.put key d es) :
    e ∈ es ∨ ∀ s, e.2 = .text s → s.length < x.length := by
  refine (Entries.mem_of_mem_put he).imp_right fun he s hs => ?_
  obtain rfl : d = .text s := by rw [← hs, he]
  exact hx.texts

theorem ReadMembers.last {k sp₁ sp₂ sp₃ : List Char} {key : String} (hkey : ReadString k key) (h₁ : Blank sp₁)
    (h₂ : Blank sp₂) (hx : Read x d) (hbegins : Begins x) (h₃ : Blank sp₃) (es : List (String × Datum)) :
    ReadMembers ('"' :: (k ++ (sp₁ ++ ':' :: (sp₂ ++ (x ++ (sp₃ ++ ['\x7d'])))))) es (Entries.put key d es) where
  opened := rfl
  closed := by simp [List.getLast?_cons]
  texts e he := (texts_put hx he).imp_right fun hlen s hs => by
    have := hlen s hs
    simp only [List.length_append, List.length_cons]
    omega
  members_eq n place tail hn := by
    obtain ⟨n, rfl⟩ := exists_succ_of_steps (by simp) hn
    simp only [List.length_append, List.length_cons, List.length_nil, List.append_assoc, List.cons_append,
      List.nil_append] at hn ⊢
    refine members_of_entry hkey h₁ h₂ hx hbegins (by omega) (stops_delimiter h₃ (by simp)) fun place' hplace => ?_
    refine .inl ⟨⟨sp₃, tail, h₃, rfl, ?_⟩, rfl⟩
    simp only [Cursor.mk.injEq, and_true]
    omega

theorem ReadMembers.cons {k sp₁ sp₂ sp₃ sp₄ : List Char} {key : String} (hkey : ReadString k key) (h₁ : Blank sp₁)
    (h₂ : Blank sp₂) (hx : Read x d) (hbegins : Begins x) (h₃ : Blank sp₃) (h₄ : Blank sp₄)
    (hy : ReadMembers y (Entries.put key d es) out) :
    ReadMembers ('"' :: (k ++ (sp₁ ++ ':' :: (sp₂ ++ (x ++ (sp₃ ++ ',' :: (sp₄ ++ y))))))) es out where
  opened := rfl
  closed := by simp [List.getLast?_cons, hy.closed]
  texts e he := by
    rcases hy.texts e he with he | hlen
    · refine (texts_put hx he).imp_right fun hlen s hs => ?_
      have := hlen s hs
      simp only [List.length_append, List.length_cons]
      omega
    · refine .inr fun s hs => ?_
      have := hlen s hs
      simp only [List.length_append, List.length_cons]
      omega
  members_eq n place tail hn := by
    obtain ⟨n, rfl⟩ := exists_succ_of_steps (by simp) hn
    simp only [List.length_append, List.length_cons, List.append_assoc, List.cons_append] at hn ⊢
    refine members_of_entry hkey h₁ h₂ hx hbegins (by omega) (stops_delimiter h₃ (by simp)) fun place' hplace => ?_
    refine .inr ⟨_, ⟨sp₃, _, h₃, rfl, rfl⟩, ?_⟩
    rw [skipSpace_append _ h₄ (hy.begins tail), hy.members_eq n _ tail (by omega)]
    simp only [Except.ok.injEq, Prod.mk.injEq, Cursor.mk.injEq, true_and, and_true]
    omega

/-! ### What is read stands in the text -/

/-- A value that is read in a number of steps has a text of its own. -/
def ValueLocal (n : Nat) : Prop :=
  ∀ ⦃place cs d c⦄, value n ⟨place, cs⟩ = .ok (d, c) → ∃ x, cs = x ++ c.rest ∧ Read x d

def ElementsLocal (n : Nat) : Prop :=
  ∀ ⦃place cs xs c⦄, elements n ⟨place, cs⟩ = .ok (xs, c) → ∃ y, cs = y ++ c.rest ∧ ReadElements y xs

def MembersLocal (n : Nat) : Prop :=
  ∀ ⦃place cs es out c⦄, members n ⟨place, cs⟩ es = .ok (out, c) → ∃ y, cs = y ++ c.rest ∧ ReadMembers y es out

theorem exists_of_skipSpace_value (hV : ValueLocal n) (h : value n c.skipSpace = .ok (d, c')) :
    ∃ sp x, Blank sp ∧ Begins x ∧ c.rest = sp ++ (x ++ c'.rest) ∧ Read x d := by
  obtain ⟨sp, t, hsp, hbegins, hrest, hskip⟩ := exists_skipSpace c
  obtain ⟨x, rfl, hx⟩ := hV (hskip ▸ h)
  exact ⟨sp, x, hsp, (begins_append_iff hx.ne_nil).1 hbegins, hrest, hx⟩

theorem exists_of_skipSpace_elements (hE : ElementsLocal n) (h : elements n c.skipSpace = .ok (xs, c')) :
    ∃ sp y, Blank sp ∧ Begins y ∧ c.rest = sp ++ (y ++ c'.rest) ∧ ReadElements y xs := by
  obtain ⟨sp, t, hsp, hbegins, hrest, hskip⟩ := exists_skipSpace c
  obtain ⟨y, rfl, hy⟩ := hE (hskip ▸ h)
  exact ⟨sp, y, hsp, (begins_append_iff hy.ne_nil).1 hbegins, hrest, hy⟩

theorem exists_of_skipSpace_members (hM : MembersLocal n) (h : members n c.skipSpace es = .ok (out, c')) :
    ∃ sp y, Blank sp ∧ c.rest = sp ++ (y ++ c'.rest) ∧ ReadMembers y es out := by
  obtain ⟨sp, t, hsp, -, hrest, hskip⟩ := exists_skipSpace c
  obtain ⟨y, rfl, hy⟩ := hM (hskip ▸ h)
  exact ⟨sp, y, hsp, hrest, hy⟩

theorem exists_of_bare (hquote : cs.head? ≠ some '"') (hbracket : cs.head? ≠ some '[') (hbrace : cs.head? ≠ some '\x7b')
    (h : value (n + 1) ⟨place, cs⟩ = .ok (d, c)) : ∃ x, cs = x ++ c.rest ∧ Read x d := by
  have hhead : ∀ {x : List Char}, x ≠ [] → cs = x ++ c.rest → x.head? = cs.head? := by
    intro x hx hcs
    obtain ⟨a, x, rfl⟩ := List.exists_cons_of_ne_nil hx
    rw [hcs]
    rfl
  rcases (value_bare_iff hquote hbracket hbrace).1 h with hword | ⟨-, hnumber⟩
  · obtain ⟨x, hcs, hne, ⟨e, he, rfl⟩, hx⟩ := exists_of_constant? hword
    rw [← hhead hne hcs] at hquote hbracket hbrace
    refine ⟨x, hcs, .bare hne hquote hbracket hbrace ?_ fun place' tail _ => .inl (hx place' tail)⟩
    simp only [constants, List.mem_cons, List.not_mem_nil, or_false] at he
    rcases he with rfl | rfl | rfl | rfl | rfl | rfl <;> exact id
  · obtain ⟨x, hcs, hnum, hd, hx⟩ := exists_of_number hnumber
    have hne : x ≠ [] := by
      obtain ⟨sign, a, y, -, rfl, -⟩ := hnum
      simp
    rw [← hhead hne hcs] at hquote hbracket hbrace
    refine ⟨x, hcs, .bare hne hquote hbracket hbrace ?_ fun place' tail htail =>
      .inr ⟨constant?_of_numeric hnum place' tail, hx place' tail htail⟩⟩
    rcases hd with ⟨m, rfl⟩ | ⟨m, rfl⟩ <;> exact id

theorem valueLocal_succ (hE : ElementsLocal n) (hM : MembersLocal n) : ValueLocal (n + 1) := by
  intro place cs d c h
  by_cases hquote : cs.head? = some '"'
  · obtain ⟨r, rfl⟩ := List.head?_eq_some_iff.1 hquote
    obtain ⟨s, hs, rfl⟩ := value_quote_iff.1 h
    obtain ⟨x, rfl, -, hlen, hx⟩ := exists_of_string hs
    exact ⟨'"' :: x, rfl, .text (by simpa using hlen) hx⟩
  by_cases hbracket : cs.head? = some '['
  · obtain ⟨r, rfl⟩ := List.head?_eq_some_iff.1 hbracket
    rcases value_bracket_iff.1 h with ⟨⟨sp, t, hsp, rfl, rfl⟩, rfl⟩ | ⟨hopen, xs, hxs, rfl⟩
    · exact ⟨'[' :: (sp ++ [']']), by simp, .listNil hsp⟩
    · obtain ⟨sp, y, hsp, hbegins, rfl, hy⟩ := exists_of_skipSpace_elements hE hxs
      refine ⟨'[' :: (sp ++ y), by simp, .list hsp hbegins (fun hhead => ?_) hy⟩
      obtain ⟨y, rfl⟩ := List.head?_eq_some_iff.1 hhead
      exact hopen _ ⟨sp, y ++ c.rest, hsp, rfl, rfl⟩
  by_cases hbrace : cs.head? = some '\x7b'
  · obtain ⟨r, rfl⟩ := List.head?_eq_some_iff.1 hbrace
    rcases value_brace_iff.1 h with ⟨⟨sp, t, hsp, rfl, rfl⟩, rfl⟩ | ⟨-, es, hes, rfl⟩
    · exact ⟨'\x7b' :: (sp ++ ['\x7d']), by simp, .dictNil hsp⟩
    · obtain ⟨sp, y, hsp, rfl, hy⟩ := exists_of_skipSpace_members hM hes
      exact ⟨'\x7b' :: (sp ++ y), by simp, .dict hsp hy⟩
  · exact exists_of_bare hquote hbracket hbrace h

theorem elementsLocal_succ (hV : ValueLocal n) (hE : ElementsLocal n) : ElementsLocal (n + 1) := by
  intro place cs xs c h
  obtain ⟨d, c₁, hd, ⟨⟨sp, t, hsp, hrest, rfl⟩, rfl⟩ | ⟨c₂, ys, ⟨sp, t, hsp, hrest, rfl⟩, hys, rfl⟩⟩ := elements_iff.1 h
  · obtain ⟨x, rfl, hx⟩ := hV hd
    exact ⟨x ++ (sp ++ [']']), by simp [hrest], .last hx hsp⟩
  · obtain ⟨x, rfl, hx⟩ := hV hd
    obtain ⟨sp', y, hsp', hbegins, rfl, hy⟩ := exists_of_skipSpace_elements hE hys
    exact ⟨x ++ (sp ++ ',' :: (sp' ++ y)), by simp [hrest], .cons hx hsp hsp' hbegins hy⟩

theorem membersLocal_succ (hV : ValueLocal n) (hM : MembersLocal n) : MembersLocal (n + 1) := by
  intro place cs es out c h
  obtain ⟨r, key, c₁, c₂, d, c₃, rfl, hkey, ⟨sp₁, t₁, h₁, hrest₁, rfl⟩, hd, hend⟩ := members_iff.1 h
  obtain ⟨k, rfl, -, -, hk⟩ := exists_of_string hkey
  obtain ⟨sp₂, x, h₂, hbegins, rfl, hx⟩ := exists_of_skipSpace_value hV hd
  rcases hend with ⟨⟨sp₃, t₃, h₃, hrest₃, rfl⟩, rfl⟩ | ⟨c₄, ⟨sp₃, t₃, h₃, hrest₃, rfl⟩, hmore⟩
  · exact ⟨_, by simp [hrest₁, hrest₃], .last hk h₁ h₂ hx hbegins h₃ es⟩
  · obtain ⟨sp₄, y, h₄, rfl, hy⟩ := exists_of_skipSpace_members hM hmore
    exact ⟨_, by simp [hrest₁, hrest₃], .cons hk h₁ h₂ hx hbegins h₃ h₄ hy⟩

/-- Every value that is read has a text of its own, which is read so wherever it stands. -/
theorem exists_of_value (h : value n ⟨place, cs⟩ = .ok (d, c)) : ∃ x, cs = x ++ c.rest ∧ Read x d := by
  -- The three readers call one another with one step less, so they are treated together.
  have hlocal : ∀ n, ValueLocal n ∧ ElementsLocal n ∧ MembersLocal n := by
    intro n
    induction n with
    | zero => exact ⟨fun _ _ _ _ h => (nomatch h), fun _ _ _ _ h => (nomatch h), fun _ _ _ _ _ h => (nomatch h)⟩
    | succ n ih =>
      obtain ⟨hV, hE, hM⟩ := ih
      exact ⟨valueLocal_succ hE hM, elementsLocal_succ hV hE, membersLocal_succ hV hM⟩
  exact (hlocal n).1 h

theorem Read.eq_of_append {x' t t' : List Char} {es' : List (String × Datum)} (h : Read x (.dict es))
    (h' : Read x' (.dict es')) (ht : x ++ t = x' ++ t') : x = x' ∧ es = es' := by
  have hx := h.value_eq (2 * x.length + 2 * x'.length) 0 t (by omega) (.inl trivial)
  have hx' := h'.value_eq (2 * x.length + 2 * x'.length) 0 t' (by omega) (.inl trivial)
  rw [ht, hx', Except.ok.injEq, Prod.mk.injEq, Cursor.mk.injEq, Nat.zero_add, Nat.zero_add] at hx
  obtain ⟨hes, hlen, -⟩ := hx
  exact ⟨(List.append_inj ht hlen.symm).1, (Datum.dict.inj hes).symm⟩

end Reader

open Reader

variable {s : String} {d : Datum} {es : List (String × Datum)}

theorem parse?_eq_ok_iff : parse? s = .ok d ↔ s.toList.head? ≠ some (Char.ofNat 0xfeff) ∧
    ∃ c, value (2 * s.toList.length + 2) (Cursor.mk 0 s.toList).skipSpace = .ok (d, c) ∧ c.skipSpace.rest = [] := by
  by_cases hmark : s.toList.head? = some (Char.ofNat 0xfeff)
  · simp [parse?, hmark]
  · simp only [parse?, hmark, if_false, ne_eq, not_false_eq_true, true_and]
    cases value (2 * s.toList.length + 2) (Cursor.mk 0 s.toList).skipSpace with
    | error e => simp [bind, Except.bind]
    | ok a =>
      obtain ⟨d', c⟩ := a
      by_cases hend : c.skipSpace.rest = []
      · simp [bind, Except.bind, pure, Except.pure, hend]
      · simp [bind, Except.bind, hend]

/-- A text is read as a dictionary if the text of one stands in it with nothing but space around. -/
theorem parse?_dict_iff : parse? s = .ok (.dict es) ↔
    ∃ sp x sp', Blank sp ∧ Blank sp' ∧ s.toList = sp ++ (x ++ sp') ∧ Read x (.dict es) := by
  rw [parse?_eq_ok_iff]
  constructor
  · rintro ⟨-, c, hvalue, hend⟩
    obtain ⟨sp, t, hsp, -, hrest, hskip⟩ := exists_skipSpace ⟨0, s.toList⟩
    obtain ⟨x, rfl, hx⟩ := exists_of_value (hskip ▸ hvalue)
    obtain ⟨sp', t', hsp', -, hrest', hskip'⟩ := exists_skipSpace c
    obtain rfl : t' = [] := by rwa [hskip'] at hend
    rw [List.append_nil] at hrest'
    exact ⟨sp, x, sp', hsp, hsp', hrest' ▸ hrest, hx⟩
  · rintro ⟨sp, x, sp', hsp, hsp', hs, hx⟩
    obtain ⟨y, rfl⟩ := List.head?_eq_some_iff.1 (hx.braced es rfl).1
    have hbegins : Begins ('\x7b' :: y ++ sp') := begins_cons (by decide) _
    have hnil : Begins [] := fun _ h => (nomatch h)
    have hskip' := skipSpace_append (0 + sp.length + ('\x7b' :: y).length) hsp' hnil
    rw [List.append_nil] at hskip'
    refine ⟨fun hmark => ?_, _, ?_, congrArg Cursor.rest hskip'⟩
    · rw [hs] at hmark
      cases sp with
      | nil => exact absurd (Option.some.inj hmark) (by decide)
      | cons b sp =>
        obtain rfl : b = Char.ofNat 0xfeff := Option.some.inj hmark
        exact absurd (hsp _ List.mem_cons_self) (by decide)
    · rw [hs, skipSpace_append 0 hsp hbegins]
      refine hx.value_eq _ _ sp' ?_ (.inl trivial)
      simp only [List.length_append]
      omega

theorem parse?_of_read {x : List Char} (h : Read x (.dict es)) : parse? (String.ofList x) = .ok (.dict es) :=
  parse?_dict_iff.2 ⟨[], x, [], blank_nil, blank_nil, by simp, h⟩

end IssuePlanner.Data
