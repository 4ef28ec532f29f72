import IssuePlanner.Proofs.Chunk.Overlap

/-! What chunks between lines keep of a text. Each chunk is a body, with the end of the chunk before it in front at most.
The bodies hold the solid characters of the text, and the lines that fit stand in them as they are (`Keeps`). While lines
are collected, the open ones are the part of the last body that is known so far (`Laid`). -/

namespace IssuePlanner.Chunk

open Tokens Text

/-- Chunks and their bodies: a chunk is its body, or the end of the chunk before it, a line feed and its body. -/
inductive Bodied : List (List Char) → List (List Char) → Prop where
  | nil : Bodied [] []
  | plain {chunks bodies : List (List Char)} (body : List Char) : Bodied chunks bodies →
      Bodied (chunks ++ [body]) (bodies ++ [body])
  | repeating {chunks bodies : List (List Char)} {chunk o : List Char} (body : List Char) :
      Bodied (chunks ++ [chunk]) bodies → o <:+ chunk →
      Bodied (chunks ++ [chunk] ++ [o ++ '\n' :: body]) (bodies ++ [body])

theorem Bodied.append {chunks bodies : List (List Char)} (h : Bodied chunks bodies) (more : List (List Char)) :
    Bodied (chunks ++ more) (bodies ++ more) := by
  induction more generalizing chunks bodies with
  | nil => simpa using h
  | cons body more ih => simpa using ih (h.plain body)

def fitting (e : Encoding) (target : Int) (lines : List (List Char)) : List (List Char) :=
  lines.filter fun l => decide ((e.count l : Int) ≤ target)

/-- Behind what chunks repeat stand bodies with all solid characters of a text in order. The lines that fit are whole
lines of bodies, in order as well. -/
structure Keeps (e : Encoding) (target : Int) (cs : List Char) (chunks bodies : List (List Char)) : Prop where
  bodied : Bodied chunks bodies
  solid_eq : solid bodies.flatten = solid cs
  lines : (fitting e target (solidLines cs)).Sublist (bodies.flatMap (splitOn '\n'))

/-! ### Lines that are being collected -/

/-- These lines are open, with the end of the last chunk in front of them at most. -/
def Opened (s : Collected) (lines : List (List Char)) : Prop :=
  s.open_ = lines.reverse ∨ lines ≠ [] ∧
    ∃ front chunk o, s.chunks = chunk :: front ∧ o <:+ chunk ∧ s.open_ = lines.reverse ++ [o]

/-- The lines seen so far: in the bodies of the finished chunks, or still open, behind what is repeated. -/
structure Laid (e : Encoding) (target : Int) (seen : List (List Char)) (s : Collected)
    (bodies lines : List (List Char)) : Prop where
  bodied : Bodied s.chunks.reverse bodies
  opened : Opened s lines
  solid_eq : solid bodies.flatten ++ solid lines.flatten = seen.flatMap solid
  whole : (fitting e target seen).Sublist (bodies.flatMap (splitOn '\n') ++ lines)
  newline : ∀ l ∈ lines, '\n' ∉ l

variable {e : Encoding} {b : Budget} {target : Int} {seen bodies lines : List (List Char)} {s s' : Collected}

theorem Laid.bodied_text (h : Laid e target seen s bodies lines) (hlines : lines ≠ []) :
    Bodied (s.chunks.reverse ++ [s.text]) (bodies ++ [joinWith ['\n'] lines]) := by
  have hbodied := h.bodied
  rcases h.opened with hopen | ⟨-, front, chunk, o, hchunks, ho, hopen⟩
  · rw [Collected.text, hopen, List.reverse_reverse]
    exact hbodied.plain _
  · have htext : s.text = o ++ '\n' :: joinWith ['\n'] lines := by
      obtain ⟨l, ls, rfl⟩ := List.exists_cons_of_ne_nil hlines
      rw [Collected.text, hopen, List.reverse_append, List.reverse_reverse, List.reverse_singleton,
        List.singleton_append, joinWith_cons_cons, List.singleton_append]
    rw [hchunks, List.reverse_cons] at hbodied ⊢
    rw [htext]
    exact hbodied.repeating _ ho

theorem Laid.close (h : Laid e target seen s bodies lines) (hopen : s.open_ ≠ []) :
    Laid e target seen { chunks := s.text :: s.chunks } (bodies ++ [joinWith ['\n'] lines]) [] := by
  have hlines : lines ≠ [] := by
    rcases h.opened with heq | ⟨hne, -⟩
    · rintro rfl
      exact hopen heq
    · exact hne
  refine ⟨?_, .inl rfl, ?_, ?_, by simp⟩
  · rw [List.reverse_cons]
    exact h.bodied_text hlines
  · rw [← h.solid_eq, List.flatten_append, solid_append, List.flatten_singleton, solid_joinWith (by decide)]
    simp
  · have hwhole := h.whole
    rw [List.flatMap_append, List.flatMap_singleton, splitOn_joinWith hlines h.newline]
    simpa using hwhole

theorem Laid.flush (h : Laid e target seen s bodies lines) : ∃ bodies', Laid e target seen s.flush bodies' [] := by
  unfold Collected.flush
  split_ifs with hopen
  · have hlines : lines = [] := by
      rw [List.isEmpty_iff] at hopen
      rcases h.opened with heq | ⟨-, front, chunk, o, -, -, heq⟩
      · rw [hopen] at heq
        simpa using heq.symm
      · rw [hopen] at heq
        simp at heq
    rw [hlines] at h
    exact ⟨bodies, h⟩
  · exact ⟨_, h.close (by simpa using hopen)⟩

theorem fitting_concat_of_fits {line : List Char} (h : (e.count line : Int) ≤ target) (seen : List (List Char)) :
    fitting e target (seen ++ [line]) = fitting e target seen ++ [line] := by
  simp [fitting, h]

theorem Laid.add {line : List Char} (h : Laid e target seen s bodies lines) (hnewline : '\n' ∉ line)
    (hfit : (e.count line : Int) ≤ target) (hbodied : Bodied s'.chunks.reverse bodies)
    (hopened : Opened s' (lines ++ [line])) :
    Laid e target (seen ++ [line]) s' bodies (lines ++ [line]) where
  bodied := hbodied
  opened := hopened
  solid_eq := by
    rw [List.flatMap_append, ← h.solid_eq]
    simp
  whole := by
    rw [fitting_concat_of_fits hfit, ← List.append_assoc]
    exact h.whole.append (List.Sublist.refl _)
  newline := by
    rw [List.forall_mem_append]
    exact ⟨h.newline, by simpa using hnewline⟩

/-- A line that keeps its solid characters when it is cut keeps the lines in order. -/
theorem Collected.Outcome.laid {line : List Char} {r : Option Carry} (hnewline : '\n' ∉ line)
    (hkeep : solid (sentences e b.target line).flatten = solid line) (hout : Outcome e b s line s' r)
    (h : Laid e b.target seen s bodies lines) : ∃ bodies' lines', Laid e b.target (seen ++ [line]) s' bodies' lines' := by
  cases hout with
  | cuts hlong =>
    obtain ⟨bodies', hflush⟩ := h.flush
    refine ⟨bodies' ++ sentences e b.target line, [], ?_, .inl rfl, ?_, ?_, by simp⟩
    · rw [List.reverse_append, List.reverse_reverse]
      exact hflush.bodied.append _
    · have hsolid := hflush.solid_eq
      simp only [List.flatten_nil, solid_nil, List.append_nil] at hsolid ⊢
      rw [List.flatten_append, solid_append, hsolid, hkeep, List.flatMap_append, List.flatMap_singleton]
    · have hskip : fitting e b.target (seen ++ [line]) = fitting e b.target seen := by
        simp [fitting, hlong]
      have hwhole := hflush.whole
      rw [List.append_nil] at hwhole ⊢
      rw [hskip, List.flatMap_append]
      exact hwhole.trans (List.sublist_append_left _ _)
  | carries hfit hopen _ =>
    have hclosed := h.close hopen
    exact ⟨_, _, hclosed.add hnewline hfit hclosed.bodied
      (.inr ⟨by simp, _, _, _, rfl, overlapText_isSuffix b s.text, rfl⟩)⟩
  | closes hfit hopen _ =>
    have hclosed := h.close hopen
    exact ⟨_, _, hclosed.add hnewline hfit hclosed.bodied (.inl rfl)⟩
  | joins hfit _ =>
    refine ⟨_, _, h.add hnewline hfit h.bodied ?_⟩
    rw [Opened, List.reverse_append, List.reverse_singleton, List.singleton_append]
    rcases h.opened with hopen | ⟨-, front, chunk, o, hchunks, ho, hopen⟩
    · exact .inl (by rw [hopen])
    · exact .inr ⟨by simp, front, chunk, o, hchunks, ho, by rw [hopen, List.cons_append]⟩

theorem mem_of_mem_solidLines {cs l : List Char} {ch : Char} (hl : l ∈ solidLines cs) (hch : ch ∈ l) :
    ch ∈ cs ∧ ch ≠ '\n' := by
  obtain ⟨p, hp, rfl⟩ := List.mem_map.1 (List.mem_of_mem_filter hl)
  have hflat : ch ∈ (splitOn '\n' cs).flatten := List.mem_flatten.2 ⟨p, hp, (strip_isInfix p).subset hch⟩
  rw [flatten_splitOn] at hflat
  simpa using List.mem_filter.1 hflat

theorem exists_keeps_paragraphs {cs : List Char} (hfit : ∀ ch ∈ cs, (e.count [ch] : Int) ≤ b.target) :
    ∃ bodies, Keeps e b.target cs (paragraphs e b cs) bodies := by
  have hrun : ∃ bodies lines, Laid e b.target (solidLines cs) ((solidLines cs).foldl (Collected.step e b) {})
      bodies lines := by
    refine Collected.run_induction (motive := fun seen _ s => ∃ bodies lines, Laid e b.target seen s bodies lines) ?_ ?_
    · exact ⟨[], [], .nil, .inl rfl, rfl, .slnil, by simp⟩
    · rintro seen rs s line s' r hline ⟨bodies, lines, h⟩ hout
      refine hout.laid (fun hmem => (mem_of_mem_solidLines hline hmem).2 rfl) ?_ h
      refine (solid_sentences_iff line).2 (not_stalls_of_affordable (fun c rest hc => ?_) fun c hc => ?_)
      · obtain ⟨p, -, rfl⟩ := List.mem_map.1 (List.mem_of_mem_filter hline)
        exact not_blank_of_strip_eq_cons hc
      · exact hfit c (mem_of_mem_solidLines hline hc).1
  obtain ⟨bodies, lines, h⟩ := hrun
  obtain ⟨bodies', hflush⟩ := h.flush
  refine ⟨bodies', hflush.bodied, ?_, ?_⟩
  · rw [← solid_solidLines cs, ← hflush.solid_eq]
    simp
  · simpa using hflush.whole

/-! ### Cutting between lines -/

section

variable {c : Counter} {model : String}

/-- Cutting between lines loses and invents nothing if each character fits on its own, unless the number of repeated tokens
is needed and out of range. A ratio that is a whole number keeps it in range, and with one of at most one only the limit
itself can be out of range. -/
theorem split_paragraphs_keeps (text : String) (he : c.encodingOf? model = some e)
    (hratio : b.HasFiniteRatio) (hfit : ∀ ch ∈ text.toList, (e.count [ch] : Int) ≤ b.target) :
    ((NeedsOverlap e b text.toList → b.InRange) →
      ∃ chunks bodies c', split .paragraphs b c model text = .ok (chunks, c') ∧
        Keeps e b.target text.toList (chunks.map String.toList) bodies) ∧
    (¬ (NeedsOverlap e b text.toList → b.InRange) →
      ∃ f, split .paragraphs b c model text = .error f ∧ f.kind = "OverflowError") ∧
    (∀ k, b.overlapRatio = .whole k → b.InRange) ∧
    ∀ x negative m q, b.overlapRatio = .real x → Number.view x = .finite negative m q →
      (b.InRange ↔ Number.InRange b.maxTokens m q) ∧
      ((m * 2 ^ q : ℚ) ≤ 1 → (b.InRange ↔ b.maxTokens.natAbs < Number.rangeEnd)) := by
  obtain ⟨c', -, hok, herror⟩ := split_paragraphs_eq he b text
  refine ⟨fun h => ?_, fun h => ?_, fun k hk => Budget.inRange_of_whole hk, fun x negative m q hkind hx => ?_⟩
  · obtain ⟨bodies, hkeeps⟩ := exists_keeps_paragraphs hfit
    have hasked : ¬ NeedsOverlap e b text.toList ∨ b.ask true = .ok () := by
      by_cases hneeds : NeedsOverlap e b text.toList
      · exact .inr (Budget.ask_of_inRange hratio (h hneeds))
      · exact .inl hneeds
    exact ⟨_, bodies, c', hok hasked, by simpa using hkeeps⟩
  · obtain ⟨hneeds, hout⟩ := Classical.not_imp.1 h
    obtain ⟨f, hask, hkind⟩ := Budget.ask_of_not_inRange hout
    exact ⟨f, herror f hneeds hask, hkind⟩
  · have hiff := Budget.inRange_iff hkind hx
    exact ⟨hiff, fun hle => hiff.trans (Number.inRange_iff_of_le_one hle)⟩

/-- A line with one word too many is cut under a target of one token, but not if the limit is at the end of the range. -/
theorem limit_at_rangeEnd_loses_long_line :
    (∃ f, split .paragraphs { maxTokens := Number.rangeEnd, margin := Number.rangeEnd - 1 } {} "gpt-4o" "hello world" =
      .error f ∧ f.kind = "OverflowError") ∧
    ∃ chunks bodies c', split .paragraphs { maxTokens := 3, margin := 2 } {} "gpt-4o" "hello world" = .ok (chunks, c') ∧
      Keeps .o200k 1 "hello world".toList (chunks.map String.toList) bodies := by
  have he : ({} : Counter).encodingOf? "gpt-4o" = some .o200k := by decide +kernel
  have hfit : ∀ ch ∈ "hello world".toList, (Encoding.o200k.count [ch] : Int) ≤ 1 := by
    have hall : "hello world".toList.all (fun ch => decide ((Encoding.o200k.count [ch] : Int) ≤ 1)) = true := by
      decide +kernel
    exact fun ch hch => of_decide_eq_true (List.all_eq_true.1 hall ch hch)
  have hline : "hello world".toList ∈ solidLines "hello world".toList := by decide +kernel
  have hcount : (Encoding.o200k.count "hello world".toList : Int) = 2 := by decide +kernel
  have hend : ({ maxTokens := Number.rangeEnd, margin := Number.rangeEnd - 1 } : Budget).target = 1 :=
    sub_sub_cancel _ _
  constructor
  · obtain ⟨-, hout, -, hrange⟩ := split_paragraphs_keeps
      (b := { maxTokens := Number.rangeEnd, margin := Number.rangeEnd - 1 }) "hello world" he
      (hasFiniteRatio_of_default rfl) (by rwa [hend])
    refine hout fun himp => ?_
    have hin := himp (.inl ⟨_, hline, by rw [hend, hcount]; decide⟩)
    have hsmall := ((hrange _ _ _ _ rfl view_defaultRatio).2 (by norm_num)).1 hin
    rw [Int.natAbs_natCast] at hsmall
    exact lt_irrefl _ hsmall
  · obtain ⟨hin, -, -, hrange⟩ := split_paragraphs_keeps (b := { maxTokens := 3, margin := 2 }) "hello world" he
      (hasFiniteRatio_of_default rfl) hfit
    exact hin fun _ => ((hrange _ _ _ _ rfl view_defaultRatio).2 (by norm_num)).2 (by decide +kernel)

end

end IssuePlanner.Chunk
