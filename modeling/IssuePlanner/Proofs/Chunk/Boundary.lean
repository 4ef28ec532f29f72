import IssuePlanner.Proofs.Chunk.Cut
import IssuePlanner.Proofs.Text.Pick
import IssuePlanner.Proofs.Tokens.Truncation

/-! Where a text is cut before a limit. Without a line feed before the limit the cut is in front of a space or at the
limit. A line feed draws the cut one character too far: behind the first character of the next line, or of what lies
beyond the limit (`splitPoint_cases`). So a cut is within the limit and beside a blank exactly if that character, or
what follows it, makes up for this (`splitPoint_fair_iff`). -/

namespace IssuePlanner.Text

theorem isPrefix_of_findLast {cs pat : List Char} {n : Nat} (h : findLast cs pat = some n) : pat <+: cs.drop n := by
  obtain ⟨k, hk, rfl⟩ := Option.map_eq_some_iff.1 h
  have hrev := (findAt_eq_some hk).2
  rw [Nat.sub_zero, List.drop_reverse, List.reverse_prefix] at hrev
  obtain ⟨front, hfront⟩ := hrev
  have hlength : front.length = cs.length - k - pat.length := by
    have hsum := congrArg List.length hfront
    rw [List.length_append, List.length_take] at hsum
    omega
  have hcs : cs = front ++ (pat ++ cs.drop (cs.length - k)) := by
    rw [← List.append_assoc, hfront, List.take_append_drop]
  refine ⟨cs.drop (cs.length - k), ?_⟩
  calc pat ++ cs.drop (cs.length - k)
      = (front ++ (pat ++ cs.drop (cs.length - k))).drop front.length := List.drop_left.symm
    _ = cs.drop (cs.length - k - pat.length) := by rw [← hcs, hlength]

end IssuePlanner.Text

namespace IssuePlanner.Chunk

open Text

variable {cs : List Char} {limit p : Nat}

def BlankAt (cs : List Char) (n : Nat) : Prop := (cs[n]?).any isBlank = true

instance (cs : List Char) (n : Nat) : Decidable (BlankAt cs n) := inferInstanceAs (Decidable (_ = true))

/-- The last line feed before a limit, unless the text starts with it. -/
structure LastFeed (cs : List Char) (limit p : Nat) : Prop where
  pos : 0 < p
  lt : p < limit
  feed : cs[p]? = some '\n'
  last : ∀ q, p < q → q < limit → cs[q]? ≠ some '\n'

theorem LastFeed.eq {p' : Nat} (h : LastFeed cs limit p) (h' : LastFeed cs limit p') : p = p' := by
  rcases lt_trichotomy p p' with hlt | heq | hgt
  · exact absurd h'.feed (h.last p' hlt h'.lt)
  · exact heq
  · exact absurd h.feed (h'.last p hgt h.lt)

/-- A cut is behind the first character and not behind the limit, and in front of the limit it is beside a blank. -/
structure Fair (cs : List Char) (limit : Nat) (cut : Int) : Prop where
  pos : 1 ≤ cut
  le : cut ≤ limit
  boundary : cut < limit → BlankAt cs (cut - 1).toNat ∨ BlankAt cs cut.toNat

/-! ### What a cut looks for -/

theorem getElem?_of_take {n : Nat} {c : Char} (h : (cs.take limit)[n]? = some c) : n < limit ∧ cs[n]? = some c := by
  rw [List.getElem?_take] at h
  split_ifs at h with hn
  exact ⟨hn, h⟩

theorem lastFeed_of_lastPlace? (h : lastPlace? (cs.take limit) ['\n'] = some p) : LastFeed cs limit p := by
  obtain ⟨hfind, hpos⟩ := Option.filter_eq_some_iff.1 h
  obtain ⟨as, bs, hsplit, hlast, rfl⟩ := findLast_singleton_some hfind
  have hfeed : (cs.take limit)[as.length]? = some '\n' := by simp [hsplit]
  obtain ⟨hlt, hfeed⟩ := getElem?_of_take hfeed
  refine ⟨by simpa using hpos, hlt, hfeed, fun q hq hlimit hmem => hlast ?_⟩
  have hback : (cs.take limit)[q]? = some '\n' := by rwa [List.getElem?_take_of_lt hlimit]
  obtain ⟨k, rfl⟩ : ∃ k, q = as.length + (k + 1) := ⟨q - as.length - 1, by omega⟩
  rw [hsplit, List.getElem?_append_right (by omega), Nat.add_sub_cancel_left, List.getElem?_cons_succ] at hback
  exact List.mem_of_getElem? hback

theorem not_lastFeed_of_lastPlace? (h : lastPlace? (cs.take limit) ['\n'] = none) : ¬ LastFeed cs limit p := by
  intro hfeed
  have hmem : (cs.take limit)[p]? = some '\n' := by rw [List.getElem?_take_of_lt hfeed.lt, hfeed.feed]
  cases hfind : findLast (cs.take limit) ['\n'] with
  | none => exact not_mem_of_findLast_none hfind (List.mem_of_getElem? hmem)
  | some n =>
    -- only a line feed at the very start is passed over, and the last one is not there
    obtain ⟨as, bs, hsplit, hlast, rfl⟩ := findLast_singleton_some hfind
    have hzero : as.length = 0 := by
      rw [lastPlace?, hfind] at h
      simpa using Option.filter_eq_none_iff.1 h
    have hpos := hfeed.pos
    obtain ⟨k, rfl⟩ : ∃ k, p = k + 1 := ⟨p - 1, by omega⟩
    rw [hsplit, List.length_eq_zero_iff.1 hzero, List.nil_append, List.getElem?_cons_succ] at hmem
    exact hlast (List.mem_of_getElem? hmem)

/-- A text that was found ends with its last character, and it does not start at the very start. -/
theorem getElem?_of_lastPlace? {n : Nat} (pat : List Char) {c : Char} (h : lastPlace? cs (pat ++ [c]) = some n) :
    0 < n ∧ cs[n + pat.length]? = some c := by
  obtain ⟨hfind, hpos⟩ := Option.filter_eq_some_iff.1 h
  obtain ⟨rest, hrest⟩ := isPrefix_of_findLast hfind
  refine ⟨by simpa using hpos, ?_⟩
  rw [← List.getElem?_drop, ← hrest]
  simp

theorem getElem?_of_sentenceEnd? {n : Nat} (h : sentenceEnd? cs = some n) : cs[n + 1]? = some ' ' := by
  obtain ⟨pat, hpat, hplace⟩ := List.mem_filterMap.1 (List.max?_mem h)
  have hend : ∃ c, pat = [c] ++ [' '] := by
    simp only [List.mem_cons, List.not_mem_nil, or_false] at hpat
    rcases hpat with rfl | rfl | rfl <;> exact ⟨_, rfl⟩
  obtain ⟨c, rfl⟩ := hend
  exact (getElem?_of_lastPlace? [c] hplace).2

/-! ### The cut -/

theorem window_natCast (cs : List Char) (limit : Nat) : window cs limit = cs.take limit := by
  rw [window, if_neg (by omega), Int.toNat_natCast]

/-- The cut is two characters behind the last line feed. If there is none, it is in front of a space or at the limit. -/
theorem splitPoint_cases (cs : List Char) (limit : Nat) :
    (∃ p, LastFeed cs limit p ∧ splitPoint cs limit = p + 2) ∨
      (∀ p, ¬ LastFeed cs limit p) ∧
        ((∃ n, 0 < n ∧ n < limit ∧ cs[n]? = some ' ' ∧ splitPoint cs limit = n) ∨ splitPoint cs limit = limit) := by
  unfold splitPoint
  simp only [window_natCast]
  cases hfeed : lastPlace? (cs.take limit) ['\n'] with
  | some p => exact .inl ⟨p, lastFeed_of_lastPlace? hfeed, rfl⟩
  | none =>
    refine .inr ⟨fun p => not_lastFeed_of_lastPlace? hfeed, ?_⟩
    cases hend : sentenceEnd? (cs.take limit) with
    | some n =>
      obtain ⟨hlt, hspace⟩ := getElem?_of_take (getElem?_of_sentenceEnd? hend)
      exact .inl ⟨n + 1, by omega, hlt, hspace, by simp⟩
    | none =>
      cases hspace : lastPlace? (cs.take limit) [' '] with
      | some n =>
        obtain ⟨hpos, hplace⟩ := getElem?_of_lastPlace? [] hspace
        obtain ⟨hlt, hplace⟩ := getElem?_of_take hplace
        exact .inl ⟨n, hpos, hlt, hplace, rfl⟩
      | none => exact .inr rfl

theorem blankAt_of_getElem? {n : Nat} {c : Char} (h : cs[n]? = some c) (hc : isBlank c = true) : BlankAt cs n := by
  rw [BlankAt, h, Option.any_some, hc]

theorem fair_of_not_lastFeed (hpos : 1 ≤ limit) (h : ∀ p, ¬ LastFeed cs limit p) : Fair cs limit (splitPoint cs limit) := by
  rcases splitPoint_cases cs limit with ⟨p, hp, -⟩ | ⟨-, ⟨n, hn, hlt, hspace, heq⟩ | heq⟩
  · exact absurd hp (h p)
  · rw [heq]
    refine ⟨by omega, by omega, fun _ => .inr ?_⟩
    rw [Int.toNat_natCast]
    exact blankAt_of_getElem? hspace (by decide)
  · rw [heq]
    exact ⟨by omega, le_rfl, fun hlt => absurd hlt (lt_irrefl _)⟩

/-- The cut behind a line feed makes up for the character that it takes along. -/
def MadeUp (cs : List Char) (limit p : Nat) : Prop :=
  p + 2 = limit ∨ p + 2 < limit ∧ (BlankAt cs (p + 1) ∨ BlankAt cs (p + 2))

theorem fair_behind_feed_iff : Fair cs limit (p + 2 : Nat) ↔ MadeUp cs limit p := by
  have hplaces : (((p + 2 : Nat) : Int) - 1).toNat = p + 1 ∧ ((p + 2 : Nat) : Int).toNat = p + 2 := by omega
  constructor
  · intro hfair
    have hle := hfair.le
    have hboundary := hfair.boundary
    rw [hplaces.1, hplaces.2] at hboundary
    rcases Nat.eq_or_lt_of_le (Int.ofNat_le.1 hle) with heq | hlt
    · exact .inl heq
    · exact .inr ⟨hlt, hboundary (by omega)⟩
  · rintro (heq | ⟨hlt, hblank⟩)
    · exact ⟨by omega, by omega, fun h => by omega⟩
    · refine ⟨by omega, by omega, fun _ => ?_⟩
      rwa [hplaces.1, hplaces.2]

/-- A cut is never at the start and at most one character behind the limit, and there it is exactly if a line feed ends
the window. It is within the limit and beside a blank exactly if a last line feed is followed by a single character up to
the limit, or by a blank as one of two characters in front of the limit. -/
theorem splitPoint_fair_iff (cs : List Char) (hpos : 1 ≤ limit) :
    (Fair cs limit (splitPoint cs limit) ↔ ∀ p, LastFeed cs limit p → MadeUp cs limit p) ∧
      1 ≤ splitPoint cs limit ∧ splitPoint cs limit ≤ limit + 1 ∧
      (limit < splitPoint cs limit ↔ LastFeed cs limit (limit - 1)) := by
  rcases splitPoint_cases cs limit with ⟨p, hp, heq⟩ | ⟨hnone, -⟩
  · have hcast : splitPoint cs limit = (p + 2 : Nat) := heq
    have hlt := hp.lt
    refine ⟨?_, by omega, by omega, fun hgt => ?_, fun hend => ?_⟩
    · rw [hcast, fair_behind_feed_iff]
      exact ⟨fun h p' hp' => hp.eq hp' ▸ h, fun h => h p hp⟩
    · have hlast : limit - 1 = p := by omega
      exact hlast ▸ hp
    · have hlast := hp.eq hend
      omega
  · have hfair := fair_of_not_lastFeed hpos hnone
    have hle := hfair.le
    exact ⟨⟨fun _ p hp => absurd hp (hnone p), fun _ => hfair⟩, hfair.pos, by omega, fun hgt => by omega,
      fun hend => absurd hend (hnone _)⟩

/-- A line feed at the end of the window takes the cut behind the limit, and one before it into the next word. -/
theorem cut_behind_feed_not_fair :
    (2 < splitPoint ['a', '\n', 'b'] 2 ∧ ¬ Fair ['a', '\n', 'b'] 2 (splitPoint ['a', '\n', 'b'] 2)) ∧
      ¬ Fair "a\nbcdef".toList 5 (splitPoint "a\nbcdef".toList 5) := by
  have hshort : LastFeed ['a', '\n', 'b'] 2 1 := ⟨by decide, by decide, by decide, fun q h1 h2 => by omega⟩
  have hlong : LastFeed "a\nbcdef".toList 5 1 := by
    refine ⟨by decide, by decide, by decide, fun q h1 h2 => ?_⟩
    obtain rfl | rfl | rfl : q = 2 ∨ q = 3 ∨ q = 4 := by omega
    all_goals decide
  obtain ⟨hfair, -, -, hbehind⟩ := splitPoint_fair_iff ['a', '\n', 'b'] (by decide : 1 ≤ 2)
  refine ⟨⟨hbehind.2 hshort, fun h => ?_⟩, fun h => ?_⟩
  · exact absurd (hfair.1 h 1 hshort) (by unfold MadeUp; decide)
  · exact absurd ((splitPoint_fair_iff _ (by decide)).1.1 h 1 hlong) (by unfold MadeUp; decide)

end IssuePlanner.Chunk
