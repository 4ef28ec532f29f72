import IssuePlanner.Proofs.Chunk.Splitting
import IssuePlanner.Proofs.Number.Sign

/-! What chunks between lines repeat, and what that costs. The carried text is counted only once it stands in the next
chunk, so the limit is kept exactly if every carried text and its line are within it (`split_paragraphs_within_iff`). It
has at most four characters a token, except under a budget of no tokens: then it is the whole closed chunk, and the last
chunk repeats all of the text (`carried_within_budget_iff`). -/

namespace IssuePlanner.Chunk

open Tokens Text

variable {b : Budget} {c c' : Counter} {model text : String} {e : Encoding} {cs : List Char} {chunks : List String}

/-! ### The carried text -/

theorem overlapText_isSuffix (b : Budget) (chunk : List Char) : overlapText b chunk <:+ chunk := List.drop_suffix _ _

theorem length_overlapText (h : 0 < b.overlapTokens) (chunk : List Char) :
    (overlapText b chunk).length = min (4 * b.overlapTokens.toNat) chunk.length := by
  unfold overlapText fromPlace
  rw [if_pos (by omega), List.length_drop]
  omega

theorem overlapText_of_zero (h : b.overlapTokens = 0) (chunk : List Char) : overlapText b chunk = chunk := by
  rw [overlapText, fromPlace, h]
  rfl

theorem length_overlapText_le_iff {chunk : List Char} (hk : 0 ≤ b.overlapTokens) (hne : chunk ≠ []) :
    ((overlapText b chunk).length : Int) ≤ 4 * b.overlapTokens ↔ 0 < b.overlapTokens := by
  constructor
  · intro h
    by_contra hnot
    have hzero : b.overlapTokens = 0 := by omega
    have hpos := List.length_pos_iff.2 hne
    rw [overlapText_of_zero hzero, hzero] at h
    omega
  · intro h
    rw [length_overlapText h]
    omega

/-- What a run carries over is the end of a chunk that is not empty, in front of a line that fits. -/
structure Carry.Proper (e : Encoding) (b : Budget) (r : Carry) : Prop where
  closed : r.closed ≠ []
  carried : r.carried = overlapText b r.closed
  line : (e.count r.line : Int) ≤ b.target

theorem proper_of_mem_carries : ∀ r ∈ carries e b cs, r.Proper e b := by
  have hrun : (∀ r ∈ carries e b cs, r.Proper e b) ∧ (((solidLines cs).foldl (Collected.step e b) {}).open_ ≠ [] →
      ((solidLines cs).foldl (Collected.step e b) {}).text ≠ []) := by
    refine Collected.run_induction
      (motive := fun _ rs s => (∀ r ∈ rs, r.Proper e b) ∧ (s.open_ ≠ [] → s.text ≠ [])) (by simp) ?_
    rintro seen rs s line s' r hline ⟨hrs, htext⟩ hout
    have hne := ne_nil_of_mem_solidLines hline
    cases hout with
    | cuts => exact ⟨by simpa using hrs, by simp⟩
    | carries hfit hopen _ =>
      refine ⟨List.forall_mem_append.2 ⟨hrs, ?_⟩, fun _ => ?_⟩
      · exact List.forall_mem_singleton.2 ⟨htext hopen, rfl, hfit⟩
      · rw [Collected.text_pair]
        simp
    | closes => exact ⟨by simpa using hrs, fun _ => by rwa [Collected.text_singleton]⟩
    | joins =>
      refine ⟨by simpa using hrs, fun _ => ?_⟩
      by_cases hopen : s.open_ = []
      · rw [hopen, Collected.text_singleton]
        exact hne
      · rw [Collected.text_cons s line _ hopen]
        simp
  exact hrun.1

/-- A chunk that repeats text starts with at most eight tokens a token of the budget, a line feed and a line that fits. -/
theorem Carry.Proper.count_opening_le {r : Carry} (h : r.Proper e b) (hk : 0 < b.overlapTokens) :
    (e.count r.opening : Int) ≤ b.target + 8 * b.overlapTokens + 1 := by
  have hopening := e.count_append_newline_le r.carried r.line
  have hcarried := e.count_le_two_mul_length r.carried
  have hlength := length_overlapText hk r.closed
  have hline := h.line
  rw [← h.carried] at hlength
  unfold Carry.opening
  omega

/-! ### Cutting between lines -/

/-- The overlap is needed to cut a line between sentences and to carry text over. -/
def NeedsOverlap (e : Encoding) (b : Budget) (cs : List Char) : Prop :=
  (∃ l ∈ solidLines cs, b.target < e.count l) ∨ carries e b cs ≠ []

theorem asks_paragraphs_iff : Strategy.paragraphs.asks e b cs = true ↔ NeedsOverlap e b cs := Collected.everAsks_iff {} _

theorem solidLines_of_blank (h : isBlankText text) : solidLines text.toList = [] :=
  solidLines_eq_nil_iff.2 ((isBlankText_iff text).1 h)

theorem paragraphs_of_blank (h : isBlankText text) : paragraphs e b text.toList = [] := by
  rw [paragraphs, solidLines_of_blank h]
  rfl

/-- For a model with an encoding, cutting between lines gives the chunks exactly if the overlap is in range or not
needed. -/
theorem split_paragraphs_eq (he : c.encodingOf? model = some e) (b : Budget) (text : String) :
    ∃ c', Counter.Agrees model c c' ∧
      (¬ NeedsOverlap e b text.toList ∨ b.ask true = .ok () →
        split .paragraphs b c model text = .ok ((paragraphs e b text.toList).map String.ofList, c')) ∧
      ∀ f, NeedsOverlap e b text.toList → b.ask true = .error f → split .paragraphs b c model text = .error f := by
  obtain ⟨c', hagree, hsplit⟩ := split_of_encoding he .paragraphs b text
  by_cases hblank : isBlankText text
  · refine ⟨c, .refl model c, fun _ => ?_, fun f hneeds _ => ?_⟩
    · rw [hsplit, if_pos hblank, paragraphs_of_blank hblank]
      rfl
    · rw [NeedsOverlap, carries, solidLines_of_blank hblank] at hneeds
      simp [Collected.carriesFrom] at hneeds
  · refine ⟨c', hagree, fun h => ?_, fun f hneeds hask => ?_⟩
    · have hask : b.ask (Strategy.paragraphs.asks e b text.toList) = .ok () := by
        rcases h with h | h
        · rw [Bool.eq_false_iff.2 (mt asks_paragraphs_iff.1 h)]
          rfl
        · cases Strategy.paragraphs.asks e b text.toList with
          | false => rfl
          | true => exact h
      rw [hsplit, if_neg hblank, hask]
      rfl
    · rw [hsplit, if_neg hblank, asks_paragraphs_iff.2 hneeds, hask]
      rfl

theorem paragraphs_of_split (he : c.encodingOf? model = some e) (h : split .paragraphs b c model text = .ok (chunks, c')) :
    chunks = (paragraphs e b text.toList).map String.ofList ∧ Counter.Agrees model c c' ∧
      (NeedsOverlap e b text.toList → b.overlap = .ok b.overlapTokens) := by
  obtain ⟨d, hagree, hok, herror⟩ := split_paragraphs_eq he b text
  cases hask : b.ask true with
  | error f =>
    by_cases hneeds : NeedsOverlap e b text.toList
    · rw [herror f hneeds hask] at h
      cases h
    · rw [hok (.inl hneeds)] at h
      cases h
      exact ⟨rfl, hagree, fun hneeds' => absurd hneeds' hneeds⟩
  | ok _ =>
    rw [hok (.inr hask)] at h
    cases h
    refine ⟨rfl, hagree, fun _ => ?_⟩
    unfold Budget.overlapTokens
    rw [Budget.ask, if_pos rfl] at hask
    cases hover : b.overlap with
    | error f =>
      rw [hover] at hask
      cases hask
    | ok k => rfl

/-! ### The limit -/

theorem forall_within_iff (he : c.encodingOf? model = some e) (limit : Int) (ps : List (List Char)) :
    (∀ chunk ∈ ps.map String.ofList, c.Within model limit chunk) ↔ ∀ p ∈ ps, (e.count p : Int) ≤ limit := by
  rw [List.forall_mem_map]
  refine forall₂_congr fun p _ => ?_
  rw [Counter.within_iff he, String.toList_ofList]

/-- The chunks are within the limit exactly if every chunk that repeats text starts within it: with the carried text, a
line feed and a line. This is so when nothing is repeated, and when the margin makes up for what is. -/
theorem split_paragraphs_within_iff (he : c.encodingOf? model = some e) (hmargin : 2 ≤ b.margin)
    (hmax : b.margin ≤ b.maxTokens) (h : split .paragraphs b c model text = .ok (chunks, c')) :
    ((∀ chunk ∈ chunks, c'.Within model b.maxTokens chunk) ↔
      ∀ r ∈ carries e b text.toList, (e.count r.opening : Int) ≤ b.maxTokens) ∧
    (¬ 0 < b.overlapRatio → ∀ chunk ∈ chunks, c'.Within model b.maxTokens chunk) ∧
    (0 < b.overlapTokens → ∀ chunk ∈ chunks, c'.Within model (b.target + 8 * b.overlapTokens + 1) chunk) := by
  obtain ⟨rfl, hagree, -⟩ := paragraphs_of_split he h
  have he' : c'.encodingOf? model = some e := hagree.encoding.trans he
  have htarget : 0 ≤ b.target := by
    unfold Budget.target
    omega
  have hroom : b.target + 2 ≤ b.maxTokens := by
    unfold Budget.target
    omega
  simp only [forall_within_iff he']
  refine ⟨⟨fun hall r hr => ?_, count_paragraphs_le_of_openings htarget hroom⟩, fun hratio => ?_, fun hk => ?_⟩
  · obtain ⟨rest, hshown⟩ := shownIn_paragraphs e b text.toList r hr
    have hle := hall (r.opening ++ rest) (hshown.subset (by simp))
    have hstart := e.count_append_left r.opening rest
    omega
  · exact count_paragraphs_le_of_openings htarget hroom (by simp [carries_eq_nil hratio])
  · refine count_paragraphs_le_of_openings htarget (by omega) fun r hr => ?_
    exact (proper_of_mem_carries r hr).count_opening_le hk

/-- Half of the tokens of each chunk are to be repeated, but nothing makes room for them. -/
theorem repeated_text_exceeds_limit :
    ∃ c', split .paragraphs { maxTokens := 4, margin := 2, overlapRatio := 0.5 } {} "gemini-2.5-pro" "aaaaaaaa\nbbbbbbbb" =
        .ok (["aaaaaaaa", "aaaaaaaa\nbbbbbbbb"], c') ∧
      ¬ ∀ chunk ∈ ["aaaaaaaa", "aaaaaaaa\nbbbbbbbb"], c'.Within "gemini-2.5-pro" 4 chunk := by
  have hrun : (split .paragraphs { maxTokens := 4, margin := 2, overlapRatio := 0.5 } {} "gemini-2.5-pro"
      "aaaaaaaa\nbbbbbbbb").toOption.map (·.1) = some ["aaaaaaaa", "aaaaaaaa\nbbbbbbbb"] := by
    decide +kernel
  obtain ⟨⟨chunks, c'⟩, hsplit, hchunks⟩ := Option.map_eq_some_iff.1 hrun
  cases hchunks
  have hok := eq_ok_of_toOption hsplit
  have he : ({} : Counter).encodingOf? "gemini-2.5-pro" = some .cl100k := by decide +kernel
  refine ⟨c', hok, fun hall => ?_⟩
  have hopenings := (split_paragraphs_within_iff he (by decide) (by decide) hok).1.1 hall
  exact absurd hopenings (by decide +kernel)

/-! ### The budget -/

/-- Under a budget of no tokens the open chunk holds all lines so far, unless one of them is too long. -/
theorem text_of_zero (hratio : 0 < b.overlapRatio) (hk : b.overlapTokens = 0)
    (hfit : ∀ l ∈ solidLines cs, (e.count l : Int) ≤ b.target) (hne : solidLines cs ≠ []) :
    (paragraphs e b cs).getLast? = some (joinWith ['\n'] (solidLines cs)) := by
  have hrun : (((solidLines cs).foldl (Collected.step e b) {}).open_ = [] ↔ solidLines cs = []) ∧
      ((solidLines cs).foldl (Collected.step e b) {}).text = joinWith ['\n'] (solidLines cs) := by
    refine Collected.run_induction
      (motive := fun seen _ s => (s.open_ = [] ↔ seen = []) ∧ s.text = joinWith ['\n'] seen) (by simp [Collected.text]) ?_
    rintro seen rs s line s' r hline ⟨hopen, htext⟩ hout
    have hconcat (h : s.open_ ≠ []) : joinWith ['\n'] (seen ++ [line]) = s.text ++ '\n' :: line := by
      rw [joinWith_append (mt hopen.2 h) (by simp), joinWith_singleton, htext, List.singleton_append]
    cases hout with
    | cuts hlong => exact absurd (hfit line hline) (not_le.2 hlong)
    | carries _ hopen' _ => exact ⟨by simp, by rw [Collected.text_pair, overlapText_of_zero hk, hconcat hopen']⟩
    | closes _ _ hnot => exact absurd hratio hnot
    | joins =>
      refine ⟨by simp, ?_⟩
      by_cases hclosed : s.open_ = []
      · rw [hclosed, Collected.text_singleton, hopen.1 hclosed, List.nil_append, joinWith_singleton]
      · rw [Collected.text_cons s line _ hclosed, hconcat hclosed]
  show (Collected.result _).getLast? = _
  rw [Collected.result_of_open (mt hrun.1.1 hne), hrun.2, List.getLast?_concat]

theorem Budget.overlapTokens_nonneg (hmax : 0 ≤ b.maxTokens) (hratio : 0 ≤ b.overlapRatio) : 0 ≤ b.overlapTokens := by
  unfold Budget.overlapTokens Budget.overlap
  cases htimes : b.overlapRatio.timesCutOff b.maxTokens with
  | error f => exact le_rfl
  | ok k => exact Datum.Numeric.timesCutOff_nonneg hmax hratio htimes

/-- The carried text is the end of the closed chunk, with four characters a token of the budget or the whole chunk if it
has no more. A budget of no tokens carries the whole chunk as well, so the bound holds exactly if the budget is positive or
nothing is carried. If the budget is zero and every line fits, the last chunk repeats all of the text. -/
theorem carried_within_budget_iff (he : c.encodingOf? model = some e) (hmax : 0 ≤ b.maxTokens)
    (hratio : 0 ≤ b.overlapRatio) (h : split .paragraphs b c model text = .ok (chunks, c')) :
    (∀ r ∈ carries e b text.toList, r.ShownIn (chunks.map String.toList) ∧ b.overlap = .ok b.overlapTokens ∧
      r.carried <:+ r.closed ∧
      r.carried.length = if b.overlapTokens = 0 then r.closed.length
        else min (4 * b.overlapTokens.toNat) r.closed.length) ∧
    ((∀ r ∈ carries e b text.toList, (r.carried.length : Int) ≤ 4 * b.overlapTokens) ↔
      0 < b.overlapTokens ∨ carries e b text.toList = []) ∧
    (b.overlapTokens = 0 → 0 < b.overlapRatio → (∀ l ∈ solidLines text.toList, (e.count l : Int) ≤ b.target) →
      solidLines text.toList ≠ [] →
      chunks.getLast? = some (String.ofList (joinWith ['\n'] (solidLines text.toList)))) := by
  obtain ⟨rfl, -, hneeded⟩ := paragraphs_of_split he h
  have hnonneg := Budget.overlapTokens_nonneg hmax hratio
  refine ⟨fun r hr => ⟨?_, ?_, ?_, ?_⟩, ⟨fun hall => ?_, ?_⟩, fun hzero hpos hfit hne => ?_⟩
  · simpa using shownIn_paragraphs e b text.toList r hr
  · exact hneeded (.inr (List.ne_nil_of_mem hr))
  · rw [(proper_of_mem_carries r hr).carried]
    exact overlapText_isSuffix b r.closed
  · rw [(proper_of_mem_carries r hr).carried]
    split_ifs with hzero
    · rw [overlapText_of_zero hzero]
    · exact length_overlapText (by omega) r.closed
  · rcases List.eq_nil_or_concat (carries e b text.toList) with hnil | ⟨rs, r, hconcat⟩
    · exact .inr hnil
    · have hr : r ∈ carries e b text.toList := by simp [hconcat]
      have hproper := proper_of_mem_carries r hr
      have hle := hall r hr
      rw [hproper.carried, length_overlapText_le_iff hnonneg hproper.closed] at hle
      exact .inl hle
  · rintro (hpos | hnil) r hr
    · have hproper := proper_of_mem_carries r hr
      rw [hproper.carried]
      exact (length_overlapText_le_iff hnonneg hproper.closed).2 hpos
    · rw [hnil] at hr
      cases hr
  · rw [List.getLast?_map, text_of_zero hpos hzero hfit hne]
    rfl

/-- A tenth of five tokens is no token, and each chunk repeats all chunks before it. -/
theorem no_budget_carries_whole_chunks :
    ∃ c', split .paragraphs { maxTokens := 5, margin := 2, overlapRatio := 0.1 } {} "gemini-2.5-pro" "aaaa\nbbbb\ncccc" =
        .ok (["aaaa", "aaaa\nbbbb", "aaaa\nbbbb\ncccc"], c') ∧
      ¬ ∀ r ∈ carries .cl100k { maxTokens := 5, margin := 2, overlapRatio := 0.1 } "aaaa\nbbbb\ncccc".toList,
        (r.carried.length : Int) ≤ 4 * 0 := by
  have hrun : (split .paragraphs { maxTokens := 5, margin := 2, overlapRatio := 0.1 } {} "gemini-2.5-pro"
      "aaaa\nbbbb\ncccc").toOption.map (·.1) = some ["aaaa", "aaaa\nbbbb", "aaaa\nbbbb\ncccc"] := by
    decide +kernel
  obtain ⟨⟨chunks, c'⟩, hsplit, hchunks⟩ := Option.map_eq_some_iff.1 hrun
  cases hchunks
  have hok := eq_ok_of_toOption hsplit
  have he : ({} : Counter).encodingOf? "gemini-2.5-pro" = some .cl100k := by decide +kernel
  have hzero : ({ maxTokens := 5, margin := 2, overlapRatio := 0.1 } : Budget).overlapTokens = 0 := by decide +kernel
  have hcarries : carries .cl100k { maxTokens := 5, margin := 2, overlapRatio := 0.1 } "aaaa\nbbbb\ncccc".toList ≠ [] := by
    decide +kernel
  have hbound := (carried_within_budget_iff he (by decide) (by decide +kernel) hok).2.1
  rw [hzero] at hbound
  refine ⟨c', hok, fun hall => ?_⟩
  rcases hbound.1 hall with hpos | hnil
  · exact absurd hpos (by decide)
  · exact hcarries hnil

end IssuePlanner.Chunk
