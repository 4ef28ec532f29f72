import IssuePlanner.Proofs.Citation.Placing
import Mathlib.Data.Prod.Basic

/-! Links beyond the end of a text. A place beyond the end means the end, but links that are appended there make the text
longer, and a place counted in the text as it came can then fall into them. Characters that carry the number of the
insertion they came with show which links a later one cuts (`infix_insertAll_iff`), and the text itself is never lost
(`links_unbroken_iff`). -/

namespace IssuePlanner.Citation

variable {α β : Type} {xs : List (Insertion α)}

/-! ### One insertion -/

namespace Insertion

variable {x : Insertion α} {as cs : List α}

theorem into_nothing (h : x.new = []) (cs : List α) : x.into cs = cs := by
  rw [into, h, List.append_nil, List.take_append_drop]

theorem into_append_left (h : x.place ≤ as.length) (bs : List α) : x.into (as ++ bs) = x.into as ++ bs := by
  rw [into, into, List.take_append_of_le_length h, List.drop_append_of_le_length h, List.append_assoc _ _ bs]

theorem into_append_right (h : as.length ≤ x.place) (bs : List α) :
    x.into (as ++ bs) = as ++ into ⟨x.place - as.length, x.new⟩ bs := by
  rw [into, into, List.take_append, List.drop_append, List.take_of_length_le h, List.drop_of_length_le h]
  simp only [List.append_assoc, List.nil_append]

theorem forall_mem_into {P : α → Prop} (hcs : ∀ c ∈ cs, P c) (hnew : ∀ c ∈ x.new, P c) : ∀ c ∈ x.into cs, P c := by
  intro c hc
  rcases List.mem_append.1 hc with hc | hc
  · rcases List.mem_append.1 hc with hc | hc
    · exact hcs c (List.mem_of_mem_take hc)
    · exact hnew c hc
  · exact hcs c (List.mem_of_mem_drop hc)

end Insertion

/-! ### What insertions keep -/

theorem insertAll_append (cs : List α) (xs ys : List (Insertion α)) :
    insertAll cs (xs ++ ys) = insertAll (insertAll cs xs) ys := by
  induction xs generalizing cs with
  | nil => rfl
  | cons x xs ih => exact ih _

theorem length_insertAll (cs : List α) (xs : List (Insertion α)) :
    (insertAll cs xs).length = cs.length + (xs.flatMap (·.new)).length := by
  induction xs generalizing cs with
  | nil => rfl
  | cons x xs ih =>
    have hstep : (x.into cs).length = cs.length + x.new.length := by
      simp only [Insertion.into, List.length_append, List.length_take, List.length_drop]
      omega
    rw [insertAll, ih, hstep, List.flatMap_cons, List.length_append, Nat.add_assoc]

theorem sublist_insertAll (cs : List α) (xs : List (Insertion α)) : cs.Sublist (insertAll cs xs) := by
  induction xs generalizing cs with
  | nil => exact .refl cs
  | cons x xs ih =>
    have hstep : (cs.take x.place ++ cs.drop x.place).Sublist (x.into cs) :=
      (List.sublist_append_left _ _).append_right _
    rw [List.take_append_drop] at hstep
    exact hstep.trans (ih _)

theorem filter_insertAll {own : α → Bool} (h : ∀ x ∈ xs, ∀ b ∈ x.new, own b = false) (cs : List α) :
    (insertAll cs xs).filter own = cs.filter own := by
  induction xs generalizing cs with
  | nil => rfl
  | cons x xs ih =>
    obtain ⟨hx, hxs⟩ := List.forall_mem_cons.1 h
    have hnew : x.new.filter own = [] := by simpa [List.filter_eq_nil_iff] using hx
    rw [insertAll, ih hxs, Insertion.into, List.filter_append, List.filter_append, hnew, List.append_nil,
      ← List.filter_append, List.take_append_drop]

theorem forall_mem_insertAll {P : α → Prop} {cs : List α} (hcs : ∀ c ∈ cs, P c) (hxs : ∀ x ∈ xs, ∀ c ∈ x.new, P c) :
    ∀ c ∈ insertAll cs xs, P c := by
  induction xs generalizing cs with
  | nil => exact hcs
  | cons x xs ih =>
    obtain ⟨hx, hxs⟩ := List.forall_mem_cons.1 hxs
    exact ih (Insertion.forall_mem_into hcs hx) hxs

theorem map_insertAll (f : α → β) (cs : List α) (xs : List (Insertion α)) :
    (insertAll cs xs).map f = insertAll (cs.map f) (xs.map fun x => ⟨x.place, x.new.map f⟩) := by
  induction xs generalizing cs with
  | nil => rfl
  | cons x xs ih =>
    rw [insertAll, ih, List.map_cons, insertAll]
    simp only [Insertion.into, List.map_append, List.map_take, List.map_drop]

/-! ### When a block stays in one piece -/

variable {own : α → Bool} {us block vs : List α}

/-- What stands between two parts of a block in a text with nothing else of its own keeps them apart. -/
theorem not_infix_of_between {a n b : α} {cs : List α} (hblock : cs.filter own = block) (ha : a ∈ block) (hb : b ∈ block)
    (hn : own n = false) (hsub : [a, n, b].Sublist cs) : ¬ block <:+: cs := by
  rintro ⟨us, vs, rfl⟩
  have hown : ∀ c ∈ block, own c = true := fun c hc => (List.mem_filter.1 (hblock ▸ hc)).2
  have houtside : us.filter own = [] ∧ vs.filter own = [] := by
    have hlength := congrArg List.length hblock
    rw [List.filter_append, List.filter_append, List.filter_eq_self.2 hown, List.length_append, List.length_append] at hlength
    exact ⟨List.length_eq_zero_iff.1 (by omega), List.length_eq_zero_iff.1 (by omega)⟩
  have hus : a ∉ us := fun hmem => List.filter_eq_nil_iff.1 houtside.1 a hmem (hown a ha)
  have hvs : b ∉ vs := fun hmem => List.filter_eq_nil_iff.1 houtside.2 b hmem (hown b hb)
  -- so all three stand in the block, which has nothing foreign
  have hinner : [a, n, b].Sublist (block ++ vs) := by
    rw [List.append_assoc] at hsub
    obtain ⟨l, r, hlr, hl, hr⟩ := List.sublist_append_iff.1 hsub
    cases l with
    | nil => rwa [hlr]
    | cons c l =>
      have hac : a = c := (List.cons.inj hlr).1
      exact absurd (hl.subset (hac ▸ List.mem_cons_self)) hus
  obtain ⟨l, r, hlr, hl, hr⟩ := List.sublist_append_iff.1 hinner
  rcases List.eq_nil_or_concat r with rfl | ⟨r, c, rfl⟩
  · rw [List.append_nil] at hlr
    rw [hown n (hl.subset (hlr ▸ by simp))] at hn
    cases hn
  · have hlast : c = b := by
      have := congrArg List.getLast? hlr
      simpa using this.symm
    exact hvs (hr.subset (by simp [hlast]))

theorem not_infix_of_cut {x : Insertion α} (hblock : ∀ b ∈ block, own b = true) (hus : ∀ b ∈ us, own b = false)
    (hvs : ∀ b ∈ vs, own b = false) (hx : ∀ b ∈ x.new, own b = false) (hxs : ∀ y ∈ xs, ∀ b ∈ y.new, own b = false)
    (hnew : x.new ≠ []) (hinside : us.length < x.place ∧ x.place < us.length + block.length) :
    ¬ block <:+: insertAll (x.into (us ++ block ++ vs)) xs := by
  obtain ⟨as, bs, rfl, has⟩ : ∃ as bs, block = as ++ bs ∧ as.length = x.place - us.length :=
    ⟨block.take _, block.drop _, (List.take_append_drop _ _).symm, List.length_take_of_le (by omega)⟩
  have hinto : x.into (us ++ (as ++ bs) ++ vs) = us ++ (as ++ x.new ++ bs) ++ vs := by
    rw [show us ++ (as ++ bs) ++ vs = (us ++ as) ++ (bs ++ vs) by simp only [List.append_assoc],
      x.into_between (by rw [List.length_append]; omega)]
    simp only [List.append_assoc]
  rw [List.length_append] at hinside
  obtain ⟨a, ha⟩ := List.exists_mem_of_ne_nil as (List.ne_nil_of_length_pos (by omega))
  obtain ⟨n, hn⟩ := List.exists_mem_of_ne_nil x.new hnew
  obtain ⟨b, hb⟩ := List.exists_mem_of_ne_nil bs (List.ne_nil_of_length_pos (by omega))
  have hbetween : ([a] ++ [n] ++ [b]).Sublist (as ++ x.new ++ bs) :=
    ((List.singleton_sublist.2 ha).append (List.singleton_sublist.2 hn)).append (List.singleton_sublist.2 hb)
  have hwhole : (as ++ x.new ++ bs).Sublist (x.into (us ++ (as ++ bs) ++ vs)) := by
    rw [hinto]
    exact List.IsInfix.sublist ⟨us, vs, rfl⟩
  have hfilter : (insertAll (x.into (us ++ (as ++ bs) ++ vs)) xs).filter own = as ++ bs := by
    have hnone {cs : List α} (h : ∀ b ∈ cs, own b = false) : cs.filter own = [] := by
      simpa [List.filter_eq_nil_iff] using h
    rw [← insertAll, filter_insertAll (List.forall_mem_cons.2 ⟨hx, hxs⟩), List.filter_append, List.filter_append, hnone hus,
      hnone hvs, List.filter_eq_self.2 hblock, List.nil_append, List.append_nil]
  exact not_infix_of_between hfilter (List.mem_append_left _ ha) (List.mem_append_right _ hb) (hx n hn)
    (hbetween.trans (hwhole.trans (sublist_insertAll _ xs)))

/-- A block is cut by the insertions that are not empty and have their place inside it. An insertion before it moves it,
but then all that follow are before it too. -/
theorem infix_insertAll_iff (hsorted : xs.Pairwise fun x y => y.place ≤ x.place) (hblock : ∀ b ∈ block, own b = true)
    (hus : ∀ b ∈ us, own b = false) (hvs : ∀ b ∈ vs, own b = false) (hxs : ∀ x ∈ xs, ∀ b ∈ x.new, own b = false) :
    block <:+: insertAll (us ++ block ++ vs) xs ↔
      ∀ x ∈ xs, x.new ≠ [] → ¬ (us.length < x.place ∧ x.place < us.length + block.length) := by
  induction xs generalizing us vs with
  | nil => exact iff_of_true ⟨us, vs, rfl⟩ (by simp)
  | cons x xs ih =>
    obtain ⟨hfirst, hsorted⟩ := List.pairwise_cons.1 hsorted
    obtain ⟨hx, hxs⟩ := List.forall_mem_cons.1 hxs
    rw [insertAll, List.forall_mem_cons]
    by_cases hbefore : x.place ≤ us.length
    · have hlength : us.length ≤ (x.into us).length := (sublist_insertAll us [x]).length_le
      have hrest : ∀ y ∈ xs, y.place ≤ us.length := fun y hy => (hfirst y hy).trans hbefore
      rw [List.append_assoc, x.into_append_left hbefore, ← List.append_assoc,
        ih hsorted (Insertion.forall_mem_into hus hx) hvs hxs]
      refine iff_of_true (fun y hy _ hinside => ?_) ⟨fun _ hinside => ?_, fun y hy _ hinside => ?_⟩
      · exact absurd (hrest y hy) (by omega)
      · exact absurd hbefore (by omega)
      · exact absurd (hrest y hy) (by omega)
    by_cases hbehind : (us ++ block).length ≤ x.place
    · have hmoved : ∀ b ∈ Insertion.into ⟨x.place - (us ++ block).length, x.new⟩ vs, own b = false :=
        Insertion.forall_mem_into hvs hx
      rw [x.into_append_right hbehind, ih hsorted hus hmoved hxs]
      rw [List.length_append] at hbehind
      exact ⟨fun h => ⟨fun _ hinside => by omega, h⟩, And.right⟩
    rw [List.length_append] at hbehind
    by_cases hnew : x.new = []
    · rw [x.into_nothing hnew, ih hsorted hus hvs hxs]
      exact ⟨fun h => ⟨fun hne => absurd hnew hne, h⟩, And.right⟩
    · have hinside : us.length < x.place ∧ x.place < us.length + block.length := ⟨by omega, by omega⟩
      exact iff_of_false (not_infix_of_cut hblock hus hvs hx hxs hnew hinside) fun h => h.1 hnew hinside

/-- Whatever place an insertion has, only a place between the lengths that the text has before it and after it cuts it:
where it does not go to the end, no later place reaches that far. -/
theorem infix_insertAll_cons_iff {x : Insertion α} {cs : List α} (hsorted : (x :: xs).Pairwise fun x y => y.place ≤ x.place)
    (hx : ∀ b ∈ x.new, own b = true) (hcs : ∀ b ∈ cs, own b = false) (hxs : ∀ y ∈ xs, ∀ b ∈ y.new, own b = false) :
    x.new <:+: insertAll cs (x :: xs) ↔
      ∀ y ∈ xs, y.new ≠ [] → ¬ (cs.length < y.place ∧ y.place < cs.length + x.new.length) := by
  obtain ⟨hfirst, hsorted⟩ := List.pairwise_cons.1 hsorted
  have hiff : x.new <:+: insertAll (cs.take x.place ++ x.new ++ cs.drop x.place) xs ↔ _ :=
    infix_insertAll_iff hsorted hx (fun b hb => hcs b (List.mem_of_mem_take hb))
      (fun b hb => hcs b (List.mem_of_mem_drop hb)) hxs
  rw [insertAll, Insertion.into, hiff, List.length_take]
  refine forall₃_congr fun y hy _ => not_congr ?_
  have := hfirst y hy
  omega

/-! ### Marked characters -/

/-- The characters of an insertion, each with its number. -/
def Insertion.marked (i : Nat) (x : Insertion α) : Insertion (Option Nat × α) := ⟨x.place, x.new.map (some i, ·)⟩

/-- Insertions marked with numbers from `i` on. -/
def marks : (i : Nat) → List (Insertion α) → List (Insertion (Option Nat × α))
  | _, [] => []
  | i, x :: xs => x.marked i :: marks (i + 1) xs

/-- A text after insertions, where each character has the number of the insertion it came with; the text's own have
none. -/
def marked (cs : List α) (xs : List (Insertion α)) : List (Option Nat × α) := insertAll (cs.map (none, ·)) (marks 0 xs)

theorem marks_append (i : Nat) (xs ys : List (Insertion α)) :
    marks i (xs ++ ys) = marks i xs ++ marks (i + xs.length) ys := by
  induction xs generalizing i with
  | nil => rfl
  | cons x xs ih =>
    rw [List.cons_append, marks, marks, ih, List.length_cons, Nat.add_right_comm, Nat.add_assoc]
    rfl

theorem exists_of_mem_marks {i : Nat} {y : Insertion (Option Nat × α)} (h : y ∈ marks i xs) :
    ∃ j x, i ≤ j ∧ j < i + xs.length ∧ x ∈ xs ∧ y = x.marked j := by
  induction xs generalizing i with
  | nil => cases h
  | cons x xs ih =>
    rcases List.mem_cons.1 h with rfl | h
    · exact ⟨i, x, le_rfl, by simp, List.mem_cons_self, rfl⟩
    · obtain ⟨j, z, hij, hj, hz, rfl⟩ := ih h
      exact ⟨j, z, by omega, by rw [List.length_cons]; omega, List.mem_cons_of_mem x hz, rfl⟩

theorem exists_mem_marks {x : Insertion α} (h : x ∈ xs) (i : Nat) : ∃ j, x.marked j ∈ marks i xs := by
  induction xs generalizing i with
  | nil => cases h
  | cons y ys ih =>
    rcases List.mem_cons.1 h with rfl | h
    · exact ⟨i, List.mem_cons_self⟩
    · obtain ⟨j, hj⟩ := ih h (i + 1)
      exact ⟨j, List.mem_cons_of_mem _ hj⟩

theorem pairwise_marks (h : xs.Pairwise fun x y => y.place ≤ x.place) (i : Nat) :
    (marks i xs).Pairwise fun x y => y.place ≤ x.place := by
  induction h generalizing i with
  | nil => exact .nil
  | cons hfirst _ ih =>
    refine .cons (fun y hy => ?_) (ih (i + 1))
    obtain ⟨j, z, -, -, hz, rfl⟩ := exists_of_mem_marks hy
    exact hfirst z hz

theorem map_snd_marked (cs : List α) (xs : List (Insertion α)) : (marked cs xs).map (·.2) = insertAll cs xs := by
  have htext : (cs.map fun c => ((none, c) : Option Nat × α)).map (·.2) = cs := by simp
  have hmarks (i : Nat) : (marks i xs).map (fun x => ⟨x.place, x.new.map (·.2)⟩) = xs := by
    induction xs generalizing i with
    | nil => rfl
    | cons x xs ih => simp [marks, ih, Insertion.marked]
  rw [marked, map_insertAll, hmarks, htext]

theorem unmarked (cs : List α) (xs : List (Insertion α)) : ((marked cs xs).filter (·.1.isNone)).map (·.2) = cs := by
  have hnew : ∀ x ∈ marks 0 xs, ∀ c ∈ x.new, c.1.isNone = false := by
    intro y hy c hc
    obtain ⟨j, x, -, -, -, rfl⟩ := exists_of_mem_marks hy
    obtain ⟨c, -, rfl⟩ := List.mem_map.1 hc
    rfl
  rw [marked, filter_insertAll hnew, List.filter_eq_self.2 (by simp)]
  simp

/-- The length of a text after insertions. -/
def reach (cs : List α) (xs : List (Insertion α)) : Nat := cs.length + (xs.flatMap (·.new)).length

/-- An insertion is cut exactly if a later one, which is not empty, has its place between the lengths that the text had
before it and after it. -/
theorem infix_marked_iff {ys zs : List (Insertion α)} {x : Insertion α}
    (hsorted : (ys ++ x :: zs).Pairwise fun x y => y.place ≤ x.place) (cs : List α) :
    (x.marked ys.length).new <:+: marked cs (ys ++ x :: zs) ↔
      ∀ z ∈ zs, z.new ≠ [] → ¬ (reach cs ys < z.place ∧ z.place < reach cs (ys ++ [x])) := by
  let own (c : Option Nat × α) : Bool := c.1 == some ys.length
  have hown : ∀ c ∈ (x.marked ys.length).new, own c = true := by simp [own, Insertion.marked]
  have hother {xs : List (Insertion α)} {i : Nat} (hi : ys.length < i ∨ i + xs.length ≤ ys.length) :
      ∀ y ∈ marks i xs, ∀ c ∈ y.new, own c = false := by
    intro y hy
    obtain ⟨j, z, hij, hj, -, rfl⟩ := exists_of_mem_marks hy
    have hne : j ≠ ys.length := by omega
    simpa [own, Insertion.marked] using fun _ _ => hne
  have hbefore : ∀ c ∈ marked cs ys, own c = false :=
    forall_mem_insertAll (by simp [own]) (hother (.inr (Nat.zero_add _).le))
  have hmarked : marked cs (ys ++ x :: zs) =
      insertAll (marked cs ys) (x.marked ys.length :: marks (ys.length + 1) zs) := by
    rw [marked, marks_append, insertAll_append, Nat.zero_add]
    rfl
  have hlength : (marked cs ys).length = reach cs ys := by
    rw [← List.length_map, map_snd_marked, length_insertAll, reach]
  have hreach : reach cs (ys ++ [x]) = reach cs ys + (x.marked ys.length).new.length := by
    simp [reach, Insertion.marked, Nat.add_assoc]
  have hlast := (List.pairwise_append.1 hsorted).2.1
  rw [hmarked, infix_insertAll_cons_iff (pairwise_marks hlast ys.length) hown hbefore (hother (.inl (Nat.lt_succ_self _))),
    hlength, hreach]
  constructor
  · intro h z hz hne
    obtain ⟨j, hj⟩ := exists_mem_marks hz (ys.length + 1)
    exact h _ hj (by simpa [Insertion.marked] using hne)
  · intro h y hy hne
    obtain ⟨j, z, -, -, hz, rfl⟩ := exists_of_mem_marks hy
    exact h z hz (by simpa [Insertion.marked] using hne)

/-! ### Links -/

variable {d : Datum} {supports : List Support} {addresses : List (Option String)}

/-- The length of a text with the links of some supports in it. -/
def lengthWith (text : String) (addresses : List (Option String)) (supports : List Support) : Nat :=
  text.length + (supports.flatMap (citation addresses)).length

/-- The supports whose links are put into a text, in order. An empty text gets no links. -/
def workedOff (text : String) (supports : List Support) : List Support := if text = "" then [] else lastFirst supports

/-- Places may lie anywhere in a text or beyond its end. Without the links a cited text is as it was; but the links of a
support stay in one piece exactly if no support after it, unless it has no links, has its place between the lengths of
the text before they were put in and after. -/
theorem links_unbroken_iff (text : String) (h : Grounds d supports addresses) (hstops : ∀ s ∈ supports, 0 ≤ s.stop)
    (hsources : addresses ≠ [] → ∀ s ∈ supports, ∀ n ∈ s.sources, -(addresses.length : Int) ≤ n) :
    let out := marked text.toList ((workedOff text supports).map (·.insertion addresses))
    citeFrom text d = .ok (String.ofList (out.map (·.2))) ∧
    (out.filter (·.1.isNone)).map (·.2) = text.toList ∧
    ∀ before s after, workedOff text supports = before ++ s :: after →
      ((citation addresses s).map (some before.length, ·) <:+: out ↔
        ∀ t ∈ after, citation addresses t ≠ [] →
          ¬ (lengthWith text addresses before < t.stop ∧ t.stop < lengthWith text addresses (before ++ [s]))) := by
  intro out
  refine ⟨?_, unmarked _ _, fun before s after horder => ?_⟩
  · by_cases htext : text = ""
    · rw [citeFrom_of_grounds h, if_pos (.inl htext)]
      simp only [out, workedOff, htext, if_true]
      rfl
    · simp only [out, workedOff, htext, if_false]
      rw [map_snd_marked, citeFrom_eq_insertAll h htext hstops hsources]
  · have htext : text ≠ "" := by
      rintro rfl
      exact List.cons_ne_nil _ _ (List.append_eq_nil_iff.1 horder.symm).2
    rw [workedOff, if_neg htext] at horder
    have hsorted := pairwise_insertions addresses supports
    have hreach (done : List Support) :
        reach text.toList (done.map (·.insertion addresses)) = lengthWith text addresses done := by
      rw [reach, lengthWith, String.length_toList, List.flatMap_map]
      rfl
    have hafter : ∀ t ∈ after, 0 ≤ t.stop := fun t ht =>
      hstops t (mem_lastFirst.1 (horder ▸ List.mem_append_right before (List.mem_cons_of_mem s ht)))
    simp only [out, workedOff, htext, if_false]
    rw [horder, List.map_append, List.map_cons] at hsorted ⊢
    have hiff := infix_marked_iff hsorted text.toList
    rw [List.length_map, ← List.map_singleton, ← List.map_append, hreach, hreach] at hiff
    refine hiff.trans ?_
    rw [List.forall_mem_map]
    refine forall₃_congr fun t ht _ => not_congr ?_
    have := hafter t ht
    simp only [Support.insertion]
    omega

/-- Two supports that end beyond a text of two characters. -/
def overrunMetadata : Datum :=
  .dict [("grounding_supports", .list [
      .dict [("segment", .dict [("end_index", .int 10)]), ("grounding_chunk_indices", .list [.int 0])],
      .dict [("segment", .dict [("end_index", .int 5)]), ("grounding_chunk_indices", .list [.int 1])]]),
    ("grounding_chunks", .list [
      .dict [("web", .dict [("uri", .text "u")])],
      .dict [("web", .dict [("uri", .text "v")])]])]

theorem grounds_overrunMetadata : Grounds overrunMetadata [⟨10, [0]⟩, ⟨5, [1]⟩] [some "u", some "v"] := by
  refine ⟨⟨_, .inl rfl, ?_⟩, ⟨_, .inl rfl, ?_⟩⟩
  · exact .cons ⟨.inl rfl, .inl rfl⟩ (.cons ⟨.inl rfl, .inl rfl⟩ .nil)
  · exact .cons ⟨"u", .inl rfl, rfl⟩ (.cons ⟨"v", .inl rfl, rfl⟩ .nil)

/-- The second link goes into the first, which was put at the end. -/
theorem appended_link_is_cut :
    citeFrom "ab" overrunMetadata = .ok "ab[1][2](v)(u)" ∧
      ¬ (citation [some "u", some "v"] ⟨10, [0]⟩).map (some 0, ·) <:+:
        marked "ab".toList ([⟨10, [0]⟩, ⟨5, [1]⟩].map (Support.insertion [some "u", some "v"])) := by
  have horder : lastFirst [⟨10, [0]⟩, ⟨5, [1]⟩] = [⟨10, [0]⟩, ⟨5, [1]⟩] := by simp [lastFirst, List.mergeSort]
  obtain ⟨hcite, -, hiff⟩ := links_unbroken_iff "ab" grounds_overrunMetadata (by decide) (by decide)
  rw [workedOff, if_neg (by decide), horder] at hcite hiff
  refine ⟨hcite.trans rfl, fun hpiece => ?_⟩
  have huncut := (hiff [] ⟨10, [0]⟩ [⟨5, [1]⟩] rfl).1 hpiece ⟨5, [1]⟩ (by simp) (by decide)
  exact huncut (by decide)

end IssuePlanner.Citation
