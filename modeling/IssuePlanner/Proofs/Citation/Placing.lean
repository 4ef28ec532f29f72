import IssuePlanner.Proofs.Citation.Metadata
import Mathlib.Order.Nat

/-! Links land where their claims end. A text that is rewritten from its last place to its first keeps what stands before
the place in hand, so each place still means the same (`insertAll_eq_spelled`). The sort keeps the order of supports of
one place (`filter_lastFirst`), and each of them goes before those that are there already, which turns their order round
(`citeFrom_places`). -/

namespace IssuePlanner.Citation

variable {α : Type}

/-! ### Insertions one after the other -/

structure Insertion (α : Type) where
  place : Nat
  new : List α

def Insertion.into (x : Insertion α) (cs : List α) : List α := cs.take x.place ++ x.new ++ cs.drop x.place

/-- Each insertion counts its place in the text that is there by then. -/
def insertAll (cs : List α) : List (Insertion α) → List α
  | [] => cs
  | x :: rest => insertAll (x.into cs) rest

theorem Insertion.into_between {x : Insertion α} {as : List α} (h : as.length = x.place) (bs : List α) :
    x.into (as ++ bs) = as ++ x.new ++ bs := by
  rw [into, ← h, List.take_left, List.drop_left]

variable {d : Datum} {supports : List Support} {addresses : List (Option String)}

def Support.insertion (addresses : List (Option String)) (s : Support) : Insertion Char :=
  ⟨s.stop.toNat, citation addresses s⟩

theorem foldl_putLinks (hstops : ∀ s ∈ supports, 0 ≤ s.stop) (cs : List Char) :
    supports.foldl (putLinks addresses) cs = insertAll cs (supports.map (·.insertion addresses)) := by
  induction supports generalizing cs with
  | nil => rfl
  | cons s rest ih =>
    obtain ⟨hstop, hstops⟩ := List.forall_mem_cons.1 hstops
    have hput : putLinks addresses cs s = (s.insertion addresses).into cs := by
      rw [putLinks, insertAt, cutAt, if_neg (Int.not_lt.2 hstop)]
      rfl
    rw [List.foldl_cons, ih hstops, hput]
    rfl

/-! ### The order of the supports -/

theorem stopOrder_trans (a b c : Support) (hab : decide (b.stop ≤ a.stop) = true)
    (hbc : decide (c.stop ≤ b.stop) = true) : decide (c.stop ≤ a.stop) = true := by
  simp only [decide_eq_true_eq] at *
  omega

theorem stopOrder_total (a b : Support) : (decide (b.stop ≤ a.stop) || decide (a.stop ≤ b.stop)) = true := by
  simp only [Bool.or_eq_true, decide_eq_true_eq]
  omega

theorem pairwise_lastFirst (supports : List Support) :
    (lastFirst supports).Pairwise fun s t => t.stop ≤ s.stop :=
  (List.pairwise_mergeSort stopOrder_trans stopOrder_total supports).imp of_decide_eq_true

theorem pairwise_insertions (addresses : List (Option String)) (supports : List Support) :
    ((lastFirst supports).map (·.insertion addresses)).Pairwise fun x y => y.place ≤ x.place := by
  rw [List.pairwise_map]
  exact (pairwise_lastFirst supports).imp fun hst => Int.toNat_le_toNat hst

theorem filter_lastFirst (supports : List Support) (p : Int) :
    (lastFirst supports).filter (·.stop = p) = supports.filter (·.stop = p) := by
  have hsame : (supports.filter (·.stop = p)).Pairwise fun s t => decide (t.stop ≤ s.stop) = true := by
    rw [List.pairwise_filter]
    exact List.pairwise_of_forall fun s t hs ht => by simp only [decide_eq_true_eq] at *; omega
  have hsub := (List.sublist_mergeSort stopOrder_trans stopOrder_total hsame List.filter_sublist).filter (·.stop = p)
  rw [List.filter_filter] at hsub
  simp only [Bool.and_self] at hsub
  exact (hsub.eq_of_length ((List.mergeSort_perm supports _).filter _).length_eq.symm).symm

/-! ### A text in pieces -/

/-- The pieces of a text: its characters, and before each of them and at the end what is new there. -/
def layout (news : Nat → List (List α)) : (place : Nat) → List α → List (α ⊕ List α)
  | p, [] => (news p).map .inr
  | p, c :: cs => (news p).map .inr ++ .inl c :: layout news (p + 1) cs

def spelled (pieces : List (α ⊕ List α)) : List α := pieces.flatMap (Sum.elim (fun c => [c]) id)

/-- What is left of the pieces without the new ones. -/
def kept (pieces : List (α ⊕ List α)) : List α := pieces.filterMap Sum.getLeft?

/-- The new pieces of a place. What came later stands before what was there. -/
def newsAt (xs : List (Insertion α)) (p : Nat) : List (List α) := ((xs.filter (·.place = p)).map (·.new)).reverse

theorem spelled_cons (p : α ⊕ List α) (ps : List (α ⊕ List α)) :
    spelled (p :: ps) = Sum.elim (fun c => [c]) id p ++ spelled ps := List.flatMap_cons

@[simp] theorem spelled_append (ps qs : List (α ⊕ List α)) : spelled (ps ++ qs) = spelled ps ++ spelled qs :=
  List.flatMap_append

@[simp] theorem spelled_map_inl (cs : List α) : spelled (cs.map .inl) = cs := by
  simp [spelled, List.flatMap_map]

@[simp] theorem spelled_map_inr (news : List (List α)) : spelled (news.map .inr) = news.flatten := by
  simp [spelled, List.flatMap_map]

theorem kept_layout (news : Nat → List (List α)) (p : Nat) (cs : List α) : kept (layout news p cs) = cs := by
  have hnews (p : Nat) : kept ((news p).map .inr) = ([] : List α) := by simp [kept, List.filterMap_map]
  induction cs generalizing p with
  | nil => exact hnews p
  | cons c cs ih =>
    have hcons : kept (layout news p (c :: cs)) = kept ((news p).map .inr) ++ c :: kept (layout news (p + 1) cs) := by
      simp [kept, layout]
    rw [hcons, hnews, ih, List.nil_append]

theorem layout_of_no_news {news : Nat → List (List α)} {p : Nat} (h : ∀ q, p ≤ q → news q = []) (cs : List α) :
    layout news p cs = cs.map .inl := by
  induction cs generalizing p with
  | nil => rw [layout, h p le_rfl]; rfl
  | cons c cs ih =>
    rw [layout, h p le_rfl, ih fun q hq => h q (by omega)]
    rfl

/-- One more new piece, behind those of its place and of the places before it, where nothing new stands further on. -/
theorem spelled_layout_concat {news news' : Nat → List (List α)} {new : List α} (as bs : List α) (p : Nat)
    (hbefore : ∀ q < p + as.length, news' q = news q) (hthere : news' (p + as.length) = news (p + as.length) ++ [new])
    (hafter : ∀ q, p + as.length < q → news' q = []) :
    spelled (layout news' p (as ++ bs)) = spelled (layout news p as) ++ new ++ bs := by
  induction as generalizing p with
  | nil =>
    rw [List.length_nil, Nat.add_zero] at hthere hafter
    cases bs with
    | nil => simp [layout, hthere, spelled]
    | cons b bs =>
      have hrest := layout_of_no_news (p := p + 1) (fun q hq => hafter q (by omega)) bs
      simp [layout, hthere, hrest, spelled_cons]
  | cons a as ih =>
    rw [List.length_cons, show p + (as.length + 1) = p + 1 + as.length by omega] at hbefore hthere hafter
    have hrest := ih (p + 1) hbefore hthere hafter
    simp [layout, hbefore p (by omega), hrest, spelled_cons]

theorem newsAt_cons (x : Insertion α) (xs : List (Insertion α)) (p : Nat) :
    newsAt (x :: xs) p = newsAt xs p ++ if x.place = p then [x.new] else [] := by
  by_cases h : x.place = p
  · simp [newsAt, h]
  · simp [newsAt, h]

theorem newsAt_eq_nil {xs : List (Insertion α)} {p : Nat} (h : ∀ x ∈ xs, x.place < p) : newsAt xs p = [] := by
  have hnone : xs.filter (·.place = p) = [] := by
    rw [List.filter_eq_nil_iff]
    intro x hx
    have := h x hx
    simpa using this.ne
  rw [newsAt, hnone]
  rfl

/-- Insertions from the last place to the first find every place of the text where it was, whatever stands behind. -/
theorem insertAll_eq_spelled {xs : List (Insertion α)} (hsorted : xs.Pairwise fun x y => y.place ≤ x.place)
    {as : List α} (hle : ∀ x ∈ xs, x.place ≤ as.length) (bs : List α) :
    insertAll (as ++ bs) xs = spelled (layout (newsAt xs) 0 as) ++ bs := by
  induction xs generalizing as bs with
  | nil =>
    rw [layout_of_no_news (fun q _ => newsAt_eq_nil (by simp)), spelled_map_inl]
    rfl
  | cons x xs ih =>
    obtain ⟨hfirst, hsorted⟩ := List.pairwise_cons.1 hsorted
    obtain ⟨us, vs, rfl, hus⟩ : ∃ us vs, as = us ++ vs ∧ us.length = x.place :=
      ⟨as.take x.place, as.drop x.place, (List.take_append_drop _ _).symm,
        List.length_take_of_le (hle x List.mem_cons_self)⟩
    have hlayout : spelled (layout (newsAt (x :: xs)) 0 (us ++ vs)) =
        spelled (layout (newsAt xs) 0 us) ++ x.new ++ vs := by
      apply spelled_layout_concat us vs 0
      · intro q hq
        rw [newsAt_cons, if_neg (by omega), List.append_nil]
      · rw [newsAt_cons, if_pos (by omega)]
      · intro q hq
        rw [newsAt_eq_nil]
        rintro y (_ | ⟨_, hy⟩)
        · omega
        · have := hfirst y hy
          omega
    rw [insertAll, List.append_assoc, x.into_between hus, List.append_assoc,
      ih hsorted fun y hy => hus ▸ hfirst y hy, hlayout]
    simp only [List.append_assoc]

/-! ### The cited text -/

/-- The links of the supports of one place, the last support first. -/
def citationsAt (addresses : List (Option String)) (supports : List Support) (p : Nat) : List (List Char) :=
  ((supports.filter fun s => s.stop = (p : Int)).map (citation addresses)).reverse

theorem newsAt_lastFirst (addresses : List (Option String)) (hstops : ∀ s ∈ supports, 0 ≤ s.stop) (p : Nat) :
    newsAt ((lastFirst supports).map (·.insertion addresses)) p = citationsAt addresses supports p := by
  have hplace : ∀ s ∈ lastFirst supports,
      ((fun x : Insertion Char => decide (x.place = p)) ∘ (·.insertion addresses)) s = decide (s.stop = (p : Int)) := by
    intro s hs
    have hstop := hstops s (mem_lastFirst.1 hs)
    have htoNat : s.stop.toNat = p ↔ s.stop = (p : Int) := by omega
    exact decide_eq_decide.2 htoNat
  rw [newsAt, List.filter_map, List.filter_congr hplace, filter_lastFirst, List.map_map]
  rfl

theorem citeFrom_eq_insertAll (h : Grounds d supports addresses) {text : String} (htext : text ≠ "")
    (hstops : ∀ s ∈ supports, 0 ≤ s.stop)
    (hsources : addresses ≠ [] → ∀ s ∈ supports, ∀ n ∈ s.sources, -(addresses.length : Int) ≤ n) :
    citeFrom text d =
      .ok (String.ofList (insertAll text.toList ((lastFirst supports).map (·.insertion addresses)))) := by
  rw [citeFrom_eq_foldl h htext hsources, foldl_putLinks fun s hs => hstops s (mem_lastFirst.1 hs)]

/-- A text gets the links of each support at the place where its claim ends, those of one place in reverse order, and
nothing else: without the new pieces it is as it was. -/
theorem citeFrom_places (text : String) (h : Grounds d supports addresses) (htext : text ≠ "")
    (hstops : ∀ s ∈ supports, 0 ≤ s.stop ∧ s.stop ≤ text.length) (hsources : ∀ s ∈ supports, ∀ n ∈ s.sources, 0 ≤ n) :
    let pieces := layout (citationsAt addresses supports) 0 text.toList
    citeFrom text d = .ok (String.ofList (spelled pieces)) ∧ kept pieces = text.toList := by
  intro pieces
  have hplaces : ∀ x ∈ (lastFirst supports).map (·.insertion addresses), x.place ≤ text.toList.length := by
    intro x hx
    obtain ⟨s, hs, rfl⟩ := List.mem_map.1 hx
    have := (hstops s (mem_lastFirst.1 hs)).2
    rw [String.length_toList]
    exact Int.toNat_le.2 this
  have hinserted := insertAll_eq_spelled (pairwise_insertions addresses supports) hplaces []
  rw [List.append_nil, List.append_nil, funext (newsAt_lastFirst addresses fun s hs => (hstops s hs).1)] at hinserted
  refine ⟨?_, kept_layout _ _ _⟩
  rw [citeFrom_eq_insertAll h htext (fun s hs => (hstops s hs).1) (fun _ s hs n hn => by have := hsources s hs n hn; omega),
    hinserted]

/-- Two supports of one place, one of the end of the text, and one without a place whose source is not there. -/
def scatteredMetadata : Datum :=
  .dict [("grounding_supports", .list [
      .dict [("segment", .dict [("end_index", .int 2)]), ("grounding_chunk_indices", .list [.int 0])],
      .dict [("segment", .dict [("end_index", .int 9)]), ("grounding_chunk_indices", .list [.int 1, .int 0])],
      .record [("segment", .record [("end_index", .int 2)]), ("grounding_chunk_indices", .list [.int 1])],
      .dict [("segment", .null), ("grounding_chunk_indices", .list [.int 7])]]),
    ("grounding_chunks", .list [
      .dict [("web", .dict [("uri", .text "u")])],
      .record [("web", .record [("uri", .text "v")])]])]

theorem grounds_scatteredMetadata :
    Grounds scatteredMetadata [⟨2, [0]⟩, ⟨9, [1, 0]⟩, ⟨2, [1]⟩, ⟨0, [7]⟩] [some "u", some "v"] := by
  refine ⟨⟨_, .inl rfl, ?_⟩, ⟨_, .inl rfl, ?_⟩⟩
  · refine .cons ⟨.inl rfl, .inl rfl⟩ (.cons ⟨.inl rfl, .inl rfl⟩ (.cons ⟨.inl rfl, .inl rfl⟩ (.cons ⟨?_, .inl rfl⟩ .nil)))
    exact .inr ⟨.inl rfl, rfl⟩
  · exact .cons ⟨"u", .inl rfl, rfl⟩ (.cons ⟨"v", .inl rfl, rfl⟩ .nil)

theorem citeFrom_scatteredMetadata :
    Grounds scatteredMetadata [⟨2, [0]⟩, ⟨9, [1, 0]⟩, ⟨2, [1]⟩, ⟨0, [7]⟩] [some "u", some "v"] ∧
      citeFrom "It rains." scatteredMetadata = .ok "It[2](v)[1](u) rains.[2](v), [1](u)" := by
  refine ⟨grounds_scatteredMetadata, ?_⟩
  rw [(citeFrom_places "It rains." grounds_scatteredMetadata (by decide) (by decide) (by decide)).1]
  rfl

end IssuePlanner.Citation
