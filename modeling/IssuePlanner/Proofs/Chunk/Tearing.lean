import IssuePlanner.Proofs.Chunk.Boundary
import IssuePlanner.Proofs.Chunk.Conservation

/-! Lines that are cut between sentences. The lines of the chunks are those of the text exactly if no cut falls inside a
line and nothing is lost (`lines_sentences_iff`). A line feed before the cut does not help: the cut then takes the first
character of the next line along, and tears that line if it goes on (`tears_of_lastFeed`). -/

namespace IssuePlanner.Chunk

open Tokens Text

variable {e : Encoding} {target : Int} {as bs cs : List Char}

/-! ### Lines of two texts -/

/-- A line goes on from one text to the next: there is something solid on both sides, and no line feed between. -/
def Straddles (as bs : List Char) : Prop :=
  ∃ us vs, us <:+ as ∧ vs <+: bs ∧ '\n' ∉ us ++ vs ∧ solid us ≠ [] ∧ solid vs ≠ []

theorem solidLines_append_feed (as bs : List Char) : solidLines (as ++ '\n' :: bs) = solidLines as ++ solidLines bs := by
  simp only [solidLines, splitOn_append_cons, List.map_append, List.filter_append]

theorem solidLines_blank_append (h : solid as = []) (bs : List Char) : solidLines (as ++ bs) = solidLines bs :=
  filter_map_splitOn_append_left rfl (fun _ p hc _ => strip_cons_of_blank hc p) (solid_eq_nil_iff.1 h) bs

theorem solidLines_append_blank (h : solid bs = []) (as : List Char) : solidLines (as ++ bs) = solidLines as :=
  filter_map_splitOn_append_right rfl (fun _ p hc _ => strip_concat_of_blank hc p) (solid_eq_nil_iff.1 h) as

theorem solidLines_strip (cs : List Char) : solidLines (strip cs) = solidLines cs := trimmedLines_strip cs

theorem solidLines_of_line (hfeed : '\n' ∉ cs) (h : solid cs ≠ []) : solidLines cs = [strip cs] := by
  rw [solidLines, splitOn_of_not_mem hfeed, List.map_singleton,
    List.filter_cons_of_pos (by simpa using mt strip_eq_nil_iff.1 h)]
  rfl

def EndsLine (front : List Char) : Prop := front = [] ∨ ∃ f, front = f ++ ['\n']

def StartsLine (back : List Char) : Prop := back = [] ∨ ∃ b, back = '\n' :: b

theorem exists_lastLine (as : List Char) : ∃ front u, as = front ++ u ∧ '\n' ∉ u ∧ EndsLine front := by
  by_cases h : '\n' ∈ as
  · obtain ⟨v, b, hrev, hv⟩ := List.eq_append_cons_of_mem (List.mem_reverse.2 h)
    refine ⟨b.reverse ++ ['\n'], v.reverse, ?_, by simpa using hv, .inr ⟨_, rfl⟩⟩
    rw [← List.reverse_reverse as, hrev]
    simp
  · exact ⟨[], as, rfl, h, .inl rfl⟩

theorem exists_firstLine (bs : List Char) : ∃ v back, bs = v ++ back ∧ '\n' ∉ v ∧ StartsLine back := by
  by_cases h : '\n' ∈ bs
  · obtain ⟨v, b, rfl, hv⟩ := List.eq_append_cons_of_mem h
    exact ⟨v, '\n' :: b, rfl, hv, .inr ⟨b, rfl⟩⟩
  · exact ⟨bs, [], (List.append_nil bs).symm, h, .inl rfl⟩

/-- Around the place where two texts meet there is one line: the end of the first text and the start of the second. -/
structure Meeting (as bs u v : List Char) (above below : List (List Char)) : Prop where
  left : solidLines as = above ++ solidLines u
  right : solidLines bs = solidLines v ++ below
  both : solidLines (as ++ bs) = above ++ solidLines (u ++ v) ++ below
  feed : '\n' ∉ u ++ v
  straddles_iff : Straddles as bs ↔ solid u ≠ [] ∧ solid v ≠ []

theorem solid_ne_nil_of_subset {us : List Char} (h : us ⊆ as) (hus : solid us ≠ []) : solid as ≠ [] :=
  fun hnil => hus (solid_eq_nil_iff.2 fun c hc => solid_eq_nil_iff.1 hnil c (h hc))

section Ends

variable {front u v back : List Char}

theorem EndsLine.solidLines_append (h : EndsLine front) (w : List Char) :
    solidLines (front ++ w) = solidLines front ++ solidLines w := by
  obtain rfl | ⟨f, rfl⟩ := h
  · rfl
  · rw [List.append_assoc, List.singleton_append, solidLines_append_feed, solidLines_append_blank (by decide)]

theorem StartsLine.solidLines_append (h : StartsLine back) (w : List Char) :
    solidLines (w ++ back) = solidLines w ++ solidLines back := by
  obtain rfl | ⟨b, rfl⟩ := h
  · rw [List.append_nil]
    exact (List.append_nil _).symm
  · have hback : solidLines ('\n' :: b) = solidLines b := solidLines_blank_append (by decide : solid ['\n'] = []) b
    rw [solidLines_append_feed, hback]

/-- A piece without a line feed at the end of a text is part of its last line. -/
theorem EndsLine.isSuffix {us : List Char} (h : EndsLine front) (hus : us <:+ front ++ u) (hfeed : '\n' ∉ us) :
    us <:+ u := by
  obtain rfl | ⟨f, rfl⟩ := h
  · exact hus
  · rw [List.append_assoc, List.singleton_append] at hus
    rcases List.suffix_or_suffix_of_suffix hus (List.suffix_append f _) with hsub | hsup
    · rcases List.suffix_cons_iff.1 hsub with rfl | hsub
      · exact absurd List.mem_cons_self hfeed
      · exact hsub
    · exact absurd (hsup.subset List.mem_cons_self) hfeed

theorem StartsLine.isPrefix {vs : List Char} (h : StartsLine back) (hvs : vs <+: v ++ back) (hfeed : '\n' ∉ vs) :
    vs <+: v := by
  obtain rfl | ⟨b, rfl⟩ := h
  · rwa [List.append_nil] at hvs
  · rw [List.append_cons] at hvs
    rcases List.prefix_or_prefix_of_prefix hvs (List.prefix_append _ b) with hsub | hsup
    · rcases List.prefix_concat_iff.1 hsub with rfl | hsub
      · exact absurd List.mem_concat_self hfeed
      · exact hsub
    · exact absurd (hsup.subset List.mem_concat_self) hfeed

end Ends

theorem exists_meeting (as bs : List Char) : ∃ u v above below, Meeting as bs u v above below := by
  obtain ⟨front, u, rfl, hu, hfront⟩ := exists_lastLine as
  obtain ⟨v, back, rfl, hv, hback⟩ := exists_firstLine bs
  refine ⟨u, v, solidLines front, solidLines back, hfront.solidLines_append u, hback.solidLines_append v, ?_,
    by simp [hu, hv], ?_, ?_⟩
  · rw [List.append_assoc, hfront.solidLines_append, ← List.append_assoc, hback.solidLines_append, List.append_assoc]
  · rintro ⟨us, vs, hus, hvs, hfeed, hsolid, hsolid'⟩
    rw [List.mem_append, not_or] at hfeed
    exact ⟨solid_ne_nil_of_subset (hfront.isSuffix hus hfeed.1).subset hsolid,
      solid_ne_nil_of_subset (hback.isPrefix hvs hfeed.2).subset hsolid'⟩
  · rintro ⟨hsolid, hsolid'⟩
    exact ⟨u, v, List.suffix_append _ _, List.prefix_append _ _, by simp [hu, hv], hsolid, hsolid'⟩

/-- Where no line goes on, the lines of two texts are those of the first and those of the second. -/
theorem solidLines_append_of_not_straddles (h : ¬ Straddles as bs) : solidLines (as ++ bs) = solidLines as ++ solidLines bs := by
  obtain ⟨u, v, above, below, hmeet⟩ := exists_meeting as bs
  rw [hmeet.straddles_iff, not_and_or, not_not, not_not] at h
  rw [hmeet.left, hmeet.right, hmeet.both]
  rcases h with hblank | hblank
  · rw [solidLines_blank_append hblank, solidLines_eq_nil_iff.2 hblank, List.append_nil, List.append_assoc]
  · rw [solidLines_append_blank hblank, solidLines_eq_nil_iff.2 hblank, List.nil_append]

theorem not_isPrefix_of_straddles (h : Straddles as bs) : ¬ solidLines as <+: solidLines (as ++ bs) := by
  obtain ⟨u, v, above, below, hmeet⟩ := exists_meeting as bs
  obtain ⟨hu, hv⟩ := hmeet.straddles_iff.1 h
  have hfeed := hmeet.feed
  have hboth : solid (u ++ v) ≠ [] := by simp [hu]
  rw [hmeet.left, hmeet.both, List.append_assoc, List.prefix_append_right_inj, solidLines_of_line hfeed hboth,
    solidLines_of_line (fun hmem => hfeed (by simp [hmem])) hu, List.singleton_append, List.cons_prefix_cons]
  rintro ⟨heq, -⟩
  have hsolid := congrArg solid heq
  rw [solid_strip, solid_strip, solid_append] at hsolid
  exact hv (List.self_eq_append_right.1 hsolid)

/-! ### Cuts between sentences -/

/-- A cut falls inside a line, in the text or in what a cut leaves of it. -/
inductive Tears (e : Encoding) (target : Int) : List Char → Prop where
  | here {cs : List Char} : Straddles (cs.take (firstCut e target cs)) (cs.drop (firstCut e target cs)) →
      Tears e target cs
  | later {cs : List Char} : Tears e target (strip (cs.drop (firstCut e target cs))) → Tears e target cs

theorem Tears.solid_ne_nil (h : Tears e target cs) : solid cs ≠ [] := by
  induction h with
  | here hstraddles =>
    obtain ⟨us, vs, hus, -, -, hsolid, -⟩ := hstraddles
    exact solid_ne_nil_of_subset (fun c hc => List.mem_of_mem_take (hus.subset hc)) hsolid
  | later _ ih =>
    rw [solid_strip] at ih
    exact solid_ne_nil_of_subset (List.drop_subset _ _) ih

/-- The lines of the chunks are those of the text exactly if no cut falls inside a line and the cutting goes on to the
end. -/
theorem lines_sentences_iff (cs : List Char) :
    (sentences e target cs).flatMap solidLines = solidLines cs ↔ ¬ Tears e target cs ∧ ¬ Stalls e target cs := by
  fun_induction sentences e target cs with
  | case1 => exact ⟨fun _ => ⟨fun h => h.solid_ne_nil rfl, fun h => h.solid_ne_nil rfl⟩, fun _ => rfl⟩
  | case2 cs hne n chunk hc =>
    have hblank : solid (cs.take n) = [] := strip_eq_nil_iff.1 hc
    rw [List.flatMap_nil, eq_comm, solidLines_eq_nil_iff]
    constructor
    · exact fun h => ⟨fun ht => ht.solid_ne_nil h, fun hs => hs.solid_ne_nil h⟩
    · rintro ⟨-, hstalls⟩
      by_contra hsolid
      exact hstalls (.here hsolid hblank)
  | case3 cs hne n chunk hc ih =>
    have hsolid : solid (cs.take n) ≠ [] := fun h => hc (strip_eq_nil_iff.2 h)
    rw [List.flatMap_cons, solidLines_strip]
    constructor
    · intro heq
      -- the lines of the first chunk start those of the text, so its last line is complete
      have hstraddles : ¬ Straddles (cs.take n) (cs.drop n) := by
        intro h
        refine not_isPrefix_of_straddles h ?_
        rw [List.take_append_drop, ← heq]
        exact List.prefix_append _ _
      have hlines := solidLines_append_of_not_straddles hstraddles
      rw [List.take_append_drop, ← heq, List.append_cancel_left_eq, ← solidLines_strip (cs.drop n)] at hlines
      obtain ⟨htears, hstalls⟩ := ih.1 hlines
      refine ⟨?_, ?_⟩
      · rintro (h | h)
        · exact hstraddles h
        · exact htears h
      · rintro (⟨-, h⟩ | h)
        · exact hsolid h
        · exact hstalls h
    · rintro ⟨htears, hstalls⟩
      rw [ih.2 ⟨fun h => htears (.later h), fun h => hstalls (.later h)⟩, solidLines_strip,
        ← solidLines_append_of_not_straddles fun h => htears (.here h), List.take_append_drop]

/-! ### Cuts behind line feeds -/

theorem LastFeed.take {limit p : Nat} (h : LastFeed cs limit p) : LastFeed (cs.take limit) limit p where
  pos := h.pos
  lt := h.lt
  feed := by rw [List.getElem?_take_of_lt h.lt, h.feed]
  last q hq hlimit := by
    rw [List.getElem?_take_of_lt hlimit]
    exact h.last q hq hlimit

/-- A line feed in the longest prefix that fits draws the cut two characters behind it. -/
theorem firstCut_of_lastFeed {p : Nat} (ht : 0 ≤ target) (h : target < e.count cs)
    (hp : LastFeed cs (prefixWithin e target cs) p) : firstCut e target cs = p + 2 := by
  have hpoint : splitPoint (cs.take (prefixWithin e target cs)) (prefixWithin e target cs) = p + 2 := by
    rcases splitPoint_cases (cs.take (prefixWithin e target cs)) (prefixWithin e target cs) with ⟨q, hq, heq⟩ | ⟨hnone, -⟩
    · rw [heq, hq.eq hp.take]
    · exact absurd hp.take (hnone p)
  rw [firstCut_eq_of_exceeds ht h, hpoint, if_neg (by omega)]
  omega

/-- The cut takes the first character of the line behind the feed along, so a line that goes on is torn. -/
theorem tears_of_lastFeed (as : List Char) (c : Char) (bs : List Char) {vs : List Char} (ht : 0 ≤ target)
    (h : target < e.count (as ++ '\n' :: c :: bs))
    (hp : LastFeed (as ++ '\n' :: c :: bs) (prefixWithin e target (as ++ '\n' :: c :: bs)) as.length)
    (hc : isBlank c = false) (hvs : vs <+: bs) (hfeed : '\n' ∉ vs) (hsolid : solid vs ≠ []) :
    Tears e target (as ++ '\n' :: c :: bs) := by
  have hcut := firstCut_of_lastFeed ht h hp
  have hsplit : as ++ '\n' :: c :: bs = as ++ ['\n'] ++ [c] ++ bs := by simp
  have hlength : (as ++ ['\n'] ++ [c]).length = as.length + 2 := by simp
  have hne : c ≠ '\n' := by
    rintro rfl
    exact absurd hc (by decide)
  refine .here ⟨[c], vs, ?_, ?_, ?_, ?_, hsolid⟩
  · rw [hcut, hsplit, List.take_left' hlength]
    exact List.suffix_append _ _
  · rwa [hcut, hsplit, List.drop_left' hlength]
  · simpa [hfeed] using hne.symm
  · rw [solid_cons_of_not_blank hc]
    exact List.cons_ne_nil _ _

end IssuePlanner.Chunk
