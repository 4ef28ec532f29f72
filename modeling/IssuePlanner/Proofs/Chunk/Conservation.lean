import IssuePlanner.Proofs.Chunk.Collecting
import IssuePlanner.Proofs.Chunk.Cut

/-! What chunks keep of a text. The solid characters of the chunks are always a prefix of those of the text,
and they are all of them unless the cutting stalls (`solid_sentences_iff`, `solid_paragraphs_iff`). It stalls
when nothing but blanks comes before the next cut: under a target of zero, at a blank start that is cut off on
its own, and at a character that exceeds the target by itself. -/

namespace IssuePlanner.Chunk

open Tokens Text

/-- The cutting stops before the end of a text: only blanks come before a cut with something solid behind
it, in the text or in what a cut leaves of it. -/
inductive Stalls (e : Encoding) (target : Int) : List Char → Prop where
  | here {cs : List Char} : solid cs ≠ [] → solid (cs.take (firstCut e target cs)) = [] → Stalls e target cs
  | later {cs : List Char} : Stalls e target (strip (cs.drop (firstCut e target cs))) → Stalls e target cs

variable {e : Encoding} {target : Int}

theorem solid_take_drop (n : Nat) (cs : List Char) : solid (cs.take n) ++ solid (cs.drop n) = solid cs := by
  rw [← solid_append, List.take_append_drop]

theorem Stalls.solid_ne_nil {cs : List Char} (h : Stalls e target cs) : solid cs ≠ [] := by
  induction h with
  | here hs _ => exact hs
  | @later cs _ ih =>
    intro hnil
    rw [← solid_take_drop (firstCut e target cs), List.append_eq_nil_iff] at hnil
    exact ih (by rw [solid_strip, hnil.2])

/-! ### Sentences -/

theorem solid_sentences_isPrefix (cs : List Char) : solid (sentences e target cs).flatten <+: solid cs := by
  fun_induction sentences e target cs with
  | case1 => exact List.prefix_rfl
  | case2 => exact List.nil_prefix
  | case3 cs hne n chunk hc ih =>
    rw [List.flatten_cons, solid_append, solid_strip, ← solid_take_drop n cs]
    rw [solid_strip] at ih
    exact (List.prefix_append_right_inj _).2 ih

/-- Cutting between sentences keeps everything solid exactly if it does not stall. -/
theorem solid_sentences_iff (cs : List Char) :
    solid (sentences e target cs).flatten = solid cs ↔ ¬ Stalls e target cs := by
  fun_induction sentences e target cs with
  | case1 => exact ⟨fun _ h => h.solid_ne_nil rfl, fun _ => rfl⟩
  | case2 cs hne n chunk hc =>
    have hblank : solid (cs.take n) = [] := strip_eq_nil_iff.1 hc
    constructor
    · intro h hst
      exact hst.solid_ne_nil h.symm
    · intro hst
      by_contra hs
      exact hst (.here (fun h => hs h.symm) hblank)
  | case3 cs hne n chunk hc ih =>
    have hsolid : solid (cs.take n) ≠ [] := fun h => hc (strip_eq_nil_iff.2 h)
    rw [List.flatten_cons, solid_append, solid_strip, ← solid_take_drop n cs, List.append_cancel_left_eq,
      ← solid_strip (cs.drop n), ih, not_iff_not]
    constructor
    · exact .later
    · rintro (⟨_, hblank⟩ | h)
      · exact absurd hblank hsolid
      · exact h

theorem not_stalls_of_uncut {cs : List Char} (h : firstCut e target cs = cs.length) :
    ¬ Stalls e target cs := by
  rintro (⟨hs, hblank⟩ | hl)
  · rw [h, List.take_length] at hblank
    exact hs hblank
  · rw [h, List.drop_length] at hl
    exact hl.solid_ne_nil rfl

theorem not_stalls_of_neg (ht : target < 0) (cs : List Char) : ¬ Stalls e target cs :=
  not_stalls_of_uncut (firstCut_of_neg e ht cs)

theorem not_stalls_of_fits {cs : List Char} (h : (e.count cs : Int) ≤ target) : ¬ Stalls e target cs :=
  not_stalls_of_uncut (firstCut_of_fits h)

/-- A text that starts with something solid is cut to its end if every character fits. -/
theorem not_stalls_of_affordable {cs : List Char} (hstart : ∀ c r, cs = c :: r → isBlank c = false)
    (hfit : ∀ c ∈ cs, (e.count [c] : Int) ≤ target) : ¬ Stalls e target cs := by
  intro h
  induction h with
  | @here cs hs hblank =>
    cases cs with
    | nil => exact hs rfl
    | cons c r =>
      obtain ⟨n, hn⟩ := Nat.exists_eq_succ_of_ne_zero (firstCut_pos (r := r) (hfit c (by simp))).ne'
      rw [hn, List.take_succ_cons, solid_cons_of_not_blank (hstart c r rfl)] at hblank
      cases hblank
  | @later cs _ ih =>
    apply ih
    · intro c r hcr
      exact not_blank_of_strip_eq_cons hcr
    · intro c hc
      exact hfit c (List.mem_of_mem_drop ((strip_isInfix _).subset hc))

/-! ### Paragraphs -/

namespace Collected

def content (s : Collected) : List Char := solid s.chunks.reverse.flatten ++ solid s.open_.reverse.flatten

theorem solid_text (s : Collected) : solid s.text = solid s.open_.reverse.flatten :=
  solid_joinWith (by decide) _

theorem content_flush (s : Collected) : s.flush.content = s.content := by
  unfold flush
  split_ifs
  · rfl
  · simp [content, solid_text]

theorem Outcome.content_eq {b : Budget} (hb : ¬ 0 < b.overlapRatio) {s s' : Collected} {line : List Char}
    {r : Option Carry} (h : Outcome e b s line s' r) :
    s'.content = s.content ++ solid (sentences e b.target line).flatten := by
  have hkeep (hfit : (e.count line : Int) ≤ b.target) : solid (sentences e b.target line).flatten = solid line :=
    (solid_sentences_iff line).2 (not_stalls_of_fits hfit)
  cases h with
  | cuts =>
    have hflush := s.content_flush
    simp only [content, s.open_flush, List.reverse_nil, List.flatten_nil, solid_nil, List.append_nil,
      List.reverse_append, List.reverse_reverse, List.flatten_append, solid_append] at hflush ⊢
    rw [hflush]
  | carries _ _ hratio => exact absurd hratio hb
  | closes hfit => simp [content, solid_text, hkeep hfit]
  | joins hfit => simp [content, hkeep hfit]

end Collected

theorem solid_solidLines (cs : List Char) : (solidLines cs).flatMap solid = solid cs := by
  have h (ps : List (List Char)) : ((ps.map strip).filter (· ≠ [])).flatMap solid = solid ps.flatten := by
    induction ps with
    | nil => rfl
    | cons p ps ih =>
      rw [List.map_cons, List.flatten_cons, solid_append]
      by_cases hp : strip p = []
      · rw [List.filter_cons_of_neg (by simpa using hp), ih, strip_eq_nil_iff.1 hp, List.nil_append]
      · rw [List.filter_cons_of_pos (by simpa using hp), List.flatMap_cons, ih, solid_strip]
  rw [solidLines, h, solid_splitOn_newline]

theorem ne_nil_of_mem_solidLines {cs l : List Char} (h : l ∈ solidLines cs) : l ≠ [] := by
  simpa using (List.mem_filter.1 h).2

theorem solidLines_eq_nil_iff {cs : List Char} : solidLines cs = [] ↔ solid cs = [] := by
  constructor
  · intro h
    rw [← solid_solidLines, h]
    rfl
  · intro h
    rw [← solid_solidLines, List.flatMap_eq_nil_iff] at h
    refine List.eq_nil_iff_forall_not_mem.2 fun l hl => ne_nil_of_mem_solidLines hl ?_
    obtain ⟨p, -, rfl⟩ := List.mem_map.1 (List.mem_of_mem_filter hl)
    exact strip_eq_nil_iff.2 (by simpa using h _ hl)

theorem solid_paragraphs_eq_content {b : Budget} (cs : List Char) :
    solid (paragraphs e b cs).flatten = ((solidLines cs).foldl (Collected.step e b) {}).content := by
  rw [← Collected.content_flush, Collected.content, Collected.open_flush]
  simp [paragraphs]

theorem solid_paragraphs {b : Budget} (hb : ¬ 0 < b.overlapRatio) (cs : List Char) :
    solid (paragraphs e b cs).flatten =
      (solidLines cs).flatMap fun l => solid (sentences e b.target l).flatten := by
  rw [solid_paragraphs_eq_content]
  refine Collected.run_induction
    (motive := fun seen _ s => s.content = seen.flatMap fun l => solid (sentences e b.target l).flatten) rfl ?_
  intro seen _ s line s' r _ ih hout
  rw [hout.content_eq hb, ih, List.flatMap_append, List.flatMap_singleton]

/-- Parts that are prefixes of others make up the same text only if each part is the whole. -/
theorem flatMap_eq_iff_of_isPrefix {α β : Type} {f g : α → List β} {xs : List α}
    (h : ∀ x ∈ xs, f x <+: g x) : xs.flatMap f = xs.flatMap g ↔ ∀ x ∈ xs, f x = g x := by
  have hlen : ∀ ys : List α, (∀ y ∈ ys, f y <+: g y) → (ys.flatMap f).length ≤ (ys.flatMap g).length := by
    intro ys hys
    induction ys with
    | nil => exact le_rfl
    | cons y ys ih =>
      have h1 := (hys y (by simp)).length_le
      have h2 := ih fun z hz => hys z (by simp [hz])
      simp only [List.flatMap_cons, List.length_append]
      omega
  induction xs with
  | nil => simp
  | cons x xs ih =>
    have hx := h x (by simp)
    have hxs : ∀ y ∈ xs, f y <+: g y := fun y hy => h y (by simp [hy])
    simp only [List.flatMap_cons, List.forall_mem_cons, ← ih hxs]
    constructor
    · intro heq
      have hl := congrArg List.length heq
      simp only [List.length_append] at hl
      have h1 := hx.length_le
      have h2 := hlen xs hxs
      have hfg : f x = g x := hx.eq_of_length (by omega)
      rw [hfg] at heq
      exact ⟨hfg, List.append_cancel_left heq⟩
    · rintro ⟨h1, h2⟩
      rw [h1, h2]

/-- Without overlap, cutting between lines keeps everything solid exactly if no line stalls. -/
theorem solid_paragraphs_iff {b : Budget} (hb : ¬ 0 < b.overlapRatio) (cs : List Char) :
    solid (paragraphs e b cs).flatten = solid cs ↔ ∀ l ∈ solidLines cs, ¬ Stalls e b.target l := by
  rw [solid_paragraphs hb, ← solid_solidLines cs,
    flatMap_eq_iff_of_isPrefix fun l _ => solid_sentences_isPrefix l]
  exact forall₂_congr fun l _ => solid_sentences_iff l

/-! ### Either way -/

/-- The cutting of a text stops early, in the text itself or in one of its lines. -/
def CutStalls (strategy : Strategy) (e : Encoding) (target : Int) (cs : List Char) : Prop :=
  match strategy with
  | .sentences => Stalls e target cs
  | .paragraphs => ∃ l ∈ solidLines cs, Stalls e target l

theorem solid_cut_iff {b : Budget} (hb : ¬ 0 < b.overlapRatio) (strategy : Strategy) (cs : List Char) :
    solid (cut strategy e b cs).flatten = solid cs ↔ ¬ CutStalls strategy e b.target cs := by
  cases strategy with
  | sentences => exact solid_sentences_iff cs
  | paragraphs =>
    rw [cut, solid_paragraphs_iff hb]
    simp only [CutStalls, not_exists, not_and]

theorem not_cutStalls_of_two_le (ht : 2 ≤ target) {strategy : Strategy} {cs : List Char}
    (hstart : strategy = .sentences → ∀ c r, cs = c :: r → isBlank c = false) :
    ¬ CutStalls strategy e target cs := by
  have hfit (c : Char) : (e.count [c] : Int) ≤ target := by
    have := e.count_singleton_le c
    omega
  cases strategy with
  | sentences => exact not_stalls_of_affordable (hstart rfl) fun c _ => hfit c
  | paragraphs =>
    rintro ⟨l, hl, hst⟩
    refine not_stalls_of_affordable (fun c r hcr => ?_) (fun c _ => hfit c) hst
    obtain ⟨p, -, rfl⟩ := List.mem_map.1 (List.mem_of_mem_filter hl)
    exact not_blank_of_strip_eq_cons hcr

theorem not_cutStalls_of_neg (ht : target < 0) (strategy : Strategy) (cs : List Char) :
    ¬ CutStalls strategy e target cs := by
  cases strategy with
  | sentences => exact not_stalls_of_neg ht cs
  | paragraphs =>
    rintro ⟨l, -, hl⟩
    exact not_stalls_of_neg ht l hl

/-! ### No room at all -/

theorem sentences_zero (e : Encoding) (cs : List Char) : sentences e 0 cs = [] := by
  unfold sentences
  split_ifs with hne
  · rfl
  · have hblank : solid (cs.take (firstCut e 0 cs)) = [] := by
      by_cases hs : solid cs = []
      · rw [← solid_take_drop (firstCut e 0 cs), List.append_eq_nil_iff] at hs
        exact hs.1
      · exact solid_take_firstCut_zero e hs
    dsimp only
    rw [dif_pos (strip_eq_nil_iff.2 hblank)]

theorem count_pos_of_solid {cs : List Char} (h : solid cs ≠ []) : 0 < e.count cs := by
  obtain ⟨c, hc⟩ := List.exists_mem_of_ne_nil _ h
  obtain ⟨hmem, hsolid⟩ := List.mem_filter.1 hc
  refine e.count_pos_of_mem hmem ?_
  rintro rfl
  exact absurd hsolid (by decide)

theorem cut_zero {b : Budget} (hb : b.target = 0) (strategy : Strategy) (cs : List Char) :
    cut strategy e b cs = [] := by
  cases strategy with
  | sentences => rw [cut, hb, sentences_zero]
  | paragraphs =>
    have hstep : ∀ l ∈ solidLines cs, Collected.step e b {} l = {} := by
      intro l hl
      have hne : l ≠ [] := by simpa using (List.mem_filter.1 hl).2
      obtain ⟨p, -, rfl⟩ := List.mem_map.1 (List.mem_of_mem_filter hl)
      have hpos : 0 < e.count (strip p) :=
        count_pos_of_solid fun h => hne (strip_eq_nil_iff.2 (by rwa [solid_strip] at h))
      unfold Collected.step
      dsimp only
      rw [if_pos (by omega), hb, sentences_zero]
      rfl
    have hrun : ∀ ls : List (List Char), (∀ l ∈ ls, Collected.step e b {} l = {}) →
        ls.foldl (Collected.step e b) {} = {} := by
      intro ls hls
      induction ls with
      | nil => rfl
      | cons l ls ih =>
        rw [List.foldl_cons, hls l (by simp)]
        exact ih fun l' hl' => hls l' (by simp [hl'])
    rw [cut, paragraphs, hrun _ hstep]
    rfl

end IssuePlanner.Chunk
