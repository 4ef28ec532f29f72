import IssuePlanner.Proofs.Chunk.Overlap
import IssuePlanner.Proofs.Text.Pieces

/-! When cutting between sentences gives what cutting between lines gives. If every line fits and text is carried over,
chunks between lines repeat something as soon as there are two of them (`carries_eq_nil_of_solid`), and chunks between
sentences never do. So the two agree exactly on blank texts and where both give one and the same chunk
(`sentences_eq_paragraphs_iff`). -/

namespace IssuePlanner.Chunk

open Tokens Text

variable {e : Encoding} {b : Budget} {cs : List Char}

/-! ### Lines that go into one chunk -/

/-- What lines take up in an open chunk: two tokens each besides their own. -/
def roomFor (e : Encoding) (lines : List (List Char)) : Int := (lines.map fun l => (e.count l : Int) + 2).sum

@[simp] theorem roomFor_nil (e : Encoding) : roomFor e [] = 0 := rfl

@[simp] theorem roomFor_cons (e : Encoding) (line : List Char) (lines : List (List Char)) :
    roomFor e (line :: lines) = e.count line + 2 + roomFor e lines := rfl

theorem roomFor_nonneg (e : Encoding) (lines : List (List Char)) : 0 ≤ roomFor e lines := by
  induction lines with
  | nil => exact le_rfl
  | cons line lines ih =>
    rw [roomFor_cons]
    omega

namespace Collected

variable {s : Collected} {line : List Char} {lines : List (List Char)}

/-- A line that fits carries nothing over exactly if it fits into the open chunk. -/
theorem carry?_eq_none_iff (hratio : 0 < b.overlapRatio) (hfit : (e.count line : Int) ≤ b.target)
    (hstart : s.open_ = [] → s.tokens = 0) : s.carry? e b line = none ↔ s.tokens + e.count line ≤ b.target := by
  unfold carry? asksOverlap
  by_cases hopen : s.open_ = []
  · simp [hopen, hstart hopen, hfit]
  · simp [hopen, hfit, hratio]

theorem step_of_carry?_eq_none (hratio : 0 < b.overlapRatio) (hfit : (e.count line : Int) ≤ b.target)
    (h : s.carry? e b line = none) :
    s.step e b line = { s with open_ := line :: s.open_, tokens := s.tokens + e.count line + 2 } := by
  have hout := outcome_step e b s line
  rw [h] at hout
  generalize s.step e b line = s' at hout
  cases hout with
  | cuts hlong => exact absurd hlong (not_lt.2 hfit)
  | closes _ _ hnot => exact absurd hratio hnot
  | joins => rfl

/-- Nothing is carried over while the open chunk has room for all lines. The last one needs no room behind it. -/
theorem carriesFrom_eq_nil_iff (hratio : 0 < b.overlapRatio) (hfit : ∀ l ∈ lines, (e.count l : Int) ≤ b.target)
    (hstart : s.open_ = [] → s.tokens = 0) :
    carriesFrom e b s lines = [] ↔ lines = [] ∨ s.tokens + roomFor e lines ≤ b.target + 2 := by
  induction lines generalizing s with
  | nil => simp [carriesFrom]
  | cons line rest ih =>
    obtain ⟨hline, hrest⟩ := List.forall_mem_cons.1 hfit
    have hroom := roomFor_nonneg e rest
    have hcarry := carry?_eq_none_iff hratio hline hstart
    rw [carriesFrom, List.append_eq_nil_iff, Option.toList_eq_nil_iff, hcarry, roomFor_cons]
    by_cases hjoins : s.tokens + e.count line ≤ b.target
    · rw [step_of_carry?_eq_none hratio hline (hcarry.2 hjoins), ih hrest (by simp)]
      rcases eq_or_ne rest [] with rfl | hne
      · simp only [hjoins, true_and, true_or, roomFor_nil, true_iff]
        omega
      · simp only [hjoins, hne, true_and, false_or, reduceCtorEq]
        omega
    · simp only [hjoins, false_and, reduceCtorEq, false_or, false_iff]
      omega

end Collected

/-! ### What is carried over shows -/

/-- The last character is not blank. -/
def EndsSolid (cs : List Char) : Prop := ∃ front c, cs = front ++ [c] ∧ isBlank c = false

theorem EndsSolid.append (h : EndsSolid cs) (as : List Char) : EndsSolid (as ++ cs) := by
  obtain ⟨front, c, rfl, hc⟩ := h
  exact ⟨as ++ front, c, (List.append_assoc _ _ _).symm, hc⟩

theorem endsSolid_of_mem_solidLines {line : List Char} (h : line ∈ solidLines cs) : EndsSolid line := by
  obtain ⟨p, -, rfl⟩ := List.mem_map.1 (List.mem_of_mem_filter h)
  rcases List.eq_nil_or_concat' (strip p) with hnil | ⟨front, c, hconcat⟩
  · exact absurd hnil (ne_nil_of_mem_solidLines h)
  · exact ⟨front, c, hconcat, not_blank_of_getLast?_strip (by rw [hconcat, List.getLast?_concat])⟩

theorem solid_overlapText_ne_nil (hk : 0 ≤ b.overlapTokens) (h : EndsSolid cs) : solid (overlapText b cs) ≠ [] := by
  obtain ⟨front, c, rfl, hc⟩ := h
  have hne : overlapText b (front ++ [c]) ≠ [] := by
    rcases hk.eq_or_lt with hzero | hpos
    · rw [overlapText_of_zero hzero.symm]
      simp
    · have hlength := length_overlapText hpos (front ++ [c])
      rw [List.length_append, List.length_singleton] at hlength
      rw [← List.length_pos_iff]
      omega
  rcases List.suffix_concat_iff.1 (overlapText_isSuffix b (front ++ [c])) with hnil | ⟨t, ht, -⟩
  · exact absurd hnil hne
  · rw [ht]
    simp [solid, hc]

namespace Collected

variable {s s' : Collected} {line : List Char} {r : Option Carry}

theorem Outcome.endsSolid (hline : EndsSolid line) (h : Outcome e b s line s' r) : s'.open_ ≠ [] → EndsSolid s'.text := by
  intro hopen
  cases h with
  | cuts => exact absurd rfl hopen
  | carries =>
    rw [text_pair, List.append_cons]
    exact hline.append _
  | closes =>
    rw [text_singleton]
    exact hline
  | joins =>
    by_cases hclosed : s.open_ = []
    · rw [hclosed, text_singleton]
      exact hline
    · rw [text_cons s line _ hclosed, List.append_cons]
      exact hline.append _

/-- A line that fits adds all of its solid characters, and more if it carries text over. -/
theorem Outcome.grows (hk : 0 ≤ b.overlapTokens) (hfit : (e.count line : Int) ≤ b.target)
    (hend : s.open_ ≠ [] → EndsSolid s.text) (h : Outcome e b s line s' r) :
    s.content.length + (solid line).length + r.toList.length ≤ s'.content.length := by
  cases h with
  | cuts hlong => exact absurd hlong (not_lt.2 hfit)
  | carries _ hopen _ =>
    have hcarried := List.length_pos_iff.2 (solid_overlapText_ne_nil hk (hend hopen))
    simp only [content, List.reverse_cons, List.reverse_nil, List.nil_append, List.singleton_append, List.flatten_append,
      List.flatten_cons, List.flatten_nil, List.append_nil, solid_append, solid_text, List.length_append,
      Option.toList_some, List.length_singleton]
    omega
  | closes => simp [content, solid_text, Nat.add_assoc]
  | joins => simp [content, Nat.add_assoc]

end Collected

theorem length_solid_add_length_carries_le (hk : 0 ≤ b.overlapTokens)
    (hfit : ∀ l ∈ solidLines cs, (e.count l : Int) ≤ b.target) :
    (solid cs).length + (carries e b cs).length ≤ (solid (paragraphs e b cs).flatten).length := by
  have hrun : (((solidLines cs).foldl (Collected.step e b) {}).open_ ≠ [] →
        EndsSolid ((solidLines cs).foldl (Collected.step e b) {}).text) ∧
      ((solidLines cs).flatMap solid).length + (carries e b cs).length ≤
        ((solidLines cs).foldl (Collected.step e b) {}).content.length := by
    refine Collected.run_induction
      (motive := fun seen rs s => (s.open_ ≠ [] → EndsSolid s.text) ∧
        (seen.flatMap solid).length + rs.length ≤ s.content.length) (by simp) ?_
    rintro seen rs s line s' r hline ⟨hend, hle⟩ hout
    have hgrows := hout.grows hk (hfit line hline) hend
    refine ⟨hout.endsSolid (endsSolid_of_mem_solidLines hline), ?_⟩
    rw [List.flatMap_append, List.flatMap_singleton, List.length_append, List.length_append]
    omega
  rw [solid_paragraphs_eq_content, ← solid_solidLines cs]
  exact hrun.2

theorem carries_eq_nil_of_solid (hk : 0 ≤ b.overlapTokens) (hfit : ∀ l ∈ solidLines cs, (e.count l : Int) ≤ b.target)
    (h : solid (paragraphs e b cs).flatten <+: solid cs) : carries e b cs = [] := by
  have hadd := length_solid_add_length_carries_le hk hfit
  have hle := h.length_le
  exact List.length_eq_zero_iff.1 (by omega)

theorem paragraphs_of_carries_eq_nil (hratio : 0 < b.overlapRatio)
    (hfit : ∀ l ∈ solidLines cs, (e.count l : Int) ≤ b.target) (hne : solidLines cs ≠ []) (h : carries e b cs = []) :
    paragraphs e b cs = [joinWith ['\n'] (solidLines cs)] := by
  have hrun : carries e b cs = [] → ((solidLines cs).foldl (Collected.step e b) {}).chunks = [] ∧
      ((solidLines cs).foldl (Collected.step e b) {}).open_ = (solidLines cs).reverse := by
    refine Collected.run_induction
      (motive := fun seen rs s => rs = [] → s.chunks = [] ∧ s.open_ = seen.reverse) (by simp) ?_
    intro seen rs s line s' r hline ih hout hrs
    obtain ⟨hseen, hline'⟩ := List.append_eq_nil_iff.1 hrs
    obtain ⟨hchunks, hopen⟩ := ih hseen
    cases hout with
    | cuts hlong => exact absurd hlong (not_lt.2 (hfit line hline))
    | carries => cases hline'
    | closes _ _ hnot => exact absurd hratio hnot
    | joins => exact ⟨hchunks, by simp [hopen]⟩
  obtain ⟨hchunks, hopen⟩ := hrun h
  show Collected.result _ = _
  rw [Collected.result_of_open (by simpa [hopen] using hne), hchunks, Collected.text, hopen, List.reverse_reverse]
  rfl

/-! ### One chunk -/

theorem sentences_of_blank {target : Int} (h : solid cs = []) : sentences e target cs = [] := by
  have hchunks := trimmed_sentences e target cs
  have hsolid : solid (sentences e target cs).flatten = [] := List.prefix_nil.1 (h ▸ solid_sentences_isPrefix cs)
  refine List.eq_nil_iff_forall_not_mem.2 fun chunk hchunk => (hchunks chunk hchunk).1 ?_
  rw [← (hchunks chunk hchunk).2, strip_eq_nil_iff, solid_eq_nil_iff]
  exact fun c hc => solid_eq_nil_iff.1 hsolid c (List.mem_flatten_of_mem hchunk hc)

/-- A single chunk that has all that is solid is the trimmed text, and only blanks are behind the first cut. -/
theorem sentences_eq_singleton_iff {target : Int} {chunk : List Char} (h : solid cs ≠ []) (hchunk : solid chunk = solid cs) :
    sentences e target cs = [chunk] ↔ strip cs = chunk ∧ solid (cs.drop (firstCut e target cs)) = [] := by
  have htake : solid (cs.drop (firstCut e target cs)) = [] → strip (cs.take (firstCut e target cs)) = strip cs := by
    intro hdrop
    rw [← strip_append_of_blank (solid_eq_nil_iff.1 hdrop) (cs.take _), List.take_append_drop]
  have hne : cs ≠ [] := by
    rintro rfl
    exact h rfl
  rw [sentences, dif_neg hne]
  dsimp only
  constructor
  · intro heq
    split_ifs at heq with hstall
    obtain ⟨hfirst, -⟩ := List.cons.inj heq
    have hdrop : solid (cs.drop (firstCut e target cs)) = [] := by
      rw [← hfirst, solid_strip, ← solid_take_drop (firstCut e target cs) cs] at hchunk
      exact List.self_eq_append_right.1 hchunk
    exact ⟨(htake hdrop).symm.trans hfirst, hdrop⟩
  · rintro ⟨rfl, hdrop⟩
    rw [htake hdrop, dif_neg (mt strip_eq_nil_iff.1 h), strip_eq_nil_iff.2 hdrop, sentences, dif_pos rfl]

/-- The lines have room in one chunk, they are all that the trimmed text is made of, and the first cut between
sentences comes after all of them. -/
structure OneChunk (e : Encoding) (target : Int) (cs : List Char) : Prop where
  room : roomFor e (solidLines cs) ≤ target + 2
  plain : strip cs = joinWith ['\n'] (solidLines cs)
  reached : solid (cs.drop (firstCut e target cs)) = []

/-- If every line fits and text is carried over, cutting between sentences gives what cutting between lines gives only
where that is no chunk or a single one. -/
theorem sentences_eq_paragraphs_iff (hratio : 0 < b.overlapRatio) (hk : solid cs ≠ [] → 0 ≤ b.overlapTokens)
    (hfit : ∀ l ∈ solidLines cs, (e.count l : Int) ≤ b.target) :
    sentences e b.target cs = paragraphs e b cs ↔ solid cs = [] ∨ OneChunk e b.target cs := by
  by_cases hblank : solid cs = []
  · rw [sentences_of_blank hblank, paragraphs, solidLines_eq_nil_iff.2 hblank]
    exact iff_of_true rfl (.inl hblank)
  have hlines : solidLines cs ≠ [] := mt solidLines_eq_nil_iff.1 hblank
  have hjoin : solid (joinWith ['\n'] (solidLines cs)) = solid cs := by
    rw [solid_joinWith (by decide), solid, List.filter_flatten, ← List.flatMap_def]
    exact solid_solidLines cs
  have hcarries : carries e b cs = [] ↔ roomFor e (solidLines cs) ≤ b.target + 2 := by
    rw [carries, Collected.carriesFrom_eq_nil_iff hratio hfit (fun _ => rfl)]
    simp [hlines]
  constructor
  · intro heq
    -- sentences repeat nothing, so chunks that equal theirs have carried nothing over
    have hnone : carries e b cs = [] := carries_eq_nil_of_solid (hk hblank) hfit (heq ▸ solid_sentences_isPrefix cs)
    rw [paragraphs_of_carries_eq_nil hratio hfit hlines hnone, sentences_eq_singleton_iff hblank hjoin] at heq
    exact .inr ⟨hcarries.1 hnone, heq.1, heq.2⟩
  · rintro (h | hone)
    · exact absurd h hblank
    · rw [paragraphs_of_carries_eq_nil hratio hfit hlines (hcarries.2 hone.room),
        sentences_eq_singleton_iff hblank hjoin]
      exact ⟨hone.plain, hone.reached⟩

end IssuePlanner.Chunk
