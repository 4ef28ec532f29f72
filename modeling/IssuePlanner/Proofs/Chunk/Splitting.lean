import IssuePlanner.Chunk.Paragraphs
import IssuePlanner.Proofs.Chunk.Size
import IssuePlanner.Proofs.Number.Range
import IssuePlanner.Proofs.Text.Lines
import IssuePlanner.Proofs.Tokens.Counter

/-! Cutting a text for a model. Cutting fails where the number of repeated tokens is out of the range of floats and is
asked for (`split_of_encoding`). Between sentences nothing is ever repeated, but the number is always asked for: in
range the chunks partition the text, out of range there are none (`split_sentences_partitions`). A margin of two tokens
keeps every chunk between sentences within the limit (`count_split_sentences_le`). -/

namespace IssuePlanner

theorem eq_ok_of_toOption {α : Type} {x : Except Failure α} {a : α} (h : x.toOption = some a) : x = .ok a := by
  cases x with
  | error f => cases h
  | ok b =>
    cases h
    rfl

namespace Chunk

open Tokens Text

variable {b : Budget} {c c' : Counter} {model text : String} {e : Encoding}

/-! ### The overlap -/

/-- Whether cutting a text asks for the overlap, at the start or on the way. -/
def Strategy.asks (e : Encoding) (b : Budget) (cs : List Char) (s : Strategy) : Bool :=
  s.asksFirst || s.asksLater e b cs

theorem Strategy.asks_sentences (e : Encoding) (b : Budget) (cs : List Char) : sentences.asks e b cs = true := rfl

theorem Budget.ask_or (b : Budget) (x y : Bool) : b.ask (x || y) = b.ask x >>= fun _ => b.ask y := by
  cases x with
  | false => rfl
  | true =>
    rw [Bool.true_or, ask, if_pos rfl]
    cases hover : b.overlap with
    | error f => rfl
    | ok n =>
      cases y with
      | false => rfl
      | true =>
        show _ = b.ask true
        rw [ask, if_pos rfl, hover]

def Budget.HasFiniteRatio (b : Budget) : Prop :=
  ∀ x, b.overlapRatio = .real x → ∃ negative m q, Number.view x = .finite negative m q

/-- The overlap is in range: with a ratio that is a float, the limit and the product are in the range of floats. -/
def Budget.InRange (b : Budget) : Prop :=
  ∀ x negative m q, b.overlapRatio = .real x → Number.view x = .finite negative m q → Number.InRange b.maxTokens m q

theorem Budget.inRange_of_whole {k : Int} (h : b.overlapRatio = .whole k) : b.InRange := by
  intro x negative m q hx
  rw [h] at hx
  cases hx

theorem Budget.inRange_iff {x : Float} {negative : Bool} {m : Nat} {q : Int} (hratio : b.overlapRatio = .real x)
    (hx : Number.view x = .finite negative m q) : b.InRange ↔ Number.InRange b.maxTokens m q := by
  refine ⟨fun h => h x negative m q hratio hx, fun h x' negative' m' q' hratio' hx' => ?_⟩
  rw [hratio] at hratio'
  cases hratio'
  rw [hx] at hx'
  cases hx'
  exact h

theorem Budget.ask_of_inRange (hratio : b.HasFiniteRatio) (h : b.InRange) : b.ask true = .ok () := by
  have hok : ∃ k, b.overlapRatio.timesCutOff b.maxTokens = .ok k := by
    cases hkind : b.overlapRatio with
    | whole j => exact ⟨_, rfl⟩
    | real x =>
      obtain ⟨negative, m, q, hx⟩ := hratio x hkind
      exact Number.timesCutOff_of_inRange hx (h x negative m q hkind hx)
  obtain ⟨k, hk⟩ := hok
  rw [ask, if_pos rfl, overlap, hk]
  rfl

theorem Budget.ask_of_not_inRange (h : ¬ b.InRange) : ∃ f, b.ask true = .error f ∧ f.kind = "OverflowError" := by
  simp only [InRange, not_forall] at h
  obtain ⟨x, negative, m, q, hkind, hx, hout⟩ := h
  have htimes : b.overlapRatio.timesCutOff b.maxTokens = Number.timesCutOff b.maxTokens x := by
    rw [hkind]
    rfl
  rw [ask, if_pos rfl, overlap, htimes, Number.timesCutOff_of_not_inRange hx hout]
  refine ⟨_, rfl, ?_⟩
  split_ifs <;> rfl

/-- For a model with an encoding, cutting fails only if the overlap is asked for and out of range. -/
theorem split_of_encoding (h : c.encodingOf? model = some e) (strategy : Strategy) (b : Budget) (text : String) :
    ∃ c', Counter.Agrees model c c' ∧ split strategy b c model text =
      if isBlankText text then .ok ([], c)
      else (b.ask (strategy.asks e b text.toList)).map fun _ =>
        ((cut strategy e b text.toList).map String.ofList, c') := by
  obtain ⟨c', henc, hagree⟩ := Counter.encoding_of_encodingOf? h
  refine ⟨c', hagree, ?_⟩
  unfold split
  split_ifs with hblank
  · rfl
  · rw [Strategy.asks, Budget.ask_or, henc]
    cases b.ask strategy.asksFirst with
    | error f => rfl
    | ok _ =>
      show (cutOrFail strategy e b text.toList >>= fun chunks => pure (chunks, c')) = Except.map _ (b.ask _)
      unfold cutOrFail
      cases b.ask (strategy.asksLater e b text.toList) <;> rfl

theorem split_fails_or_cuts (h : c.encodingOf? model = some e) (strategy : Strategy) (b : Budget) (text : String) :
    (∃ f, split strategy b c model text = .error f) ∨
      ∃ c', split strategy b c model text =
          .ok (if isBlankText text then [] else (cut strategy e b text.toList).map String.ofList, c') ∧
        Counter.Agrees model c c' := by
  obtain ⟨c', hagree, hsplit⟩ := split_of_encoding h strategy b text
  rw [hsplit]
  split_ifs with hblank
  · exact .inr ⟨c, rfl, .refl model c⟩
  · cases b.ask (strategy.asks e b text.toList) with
    | error f => exact .inl ⟨f, rfl⟩
    | ok _ => exact .inr ⟨c', rfl, hagree⟩

/-! ### Chunks of sentences -/

theorem trimmed_sentences (e : Encoding) (target : Int) (cs : List Char) :
    ∀ chunk ∈ sentences e target cs, chunk ≠ [] ∧ strip chunk = chunk := by
  fun_induction sentences e target cs with
  | case1 => simp
  | case2 => simp
  | case3 cs hne n chunk hc ih => exact List.forall_mem_cons.2 ⟨⟨hc, strip_strip _⟩, ih⟩

/-- The chunks hold the solid characters of a text in order, from the first on, and all of them if the text starts with
a solid one and each character fits on its own. -/
structure Partitions (e : Encoding) (target : Int) (cs : List Char) (chunks : List (List Char)) : Prop where
  trimmed : ∀ chunk ∈ chunks, chunk ≠ [] ∧ strip chunk = chunk
  isPrefix : solid chunks.flatten <+: solid cs
  whole : (∀ c r, cs = c :: r → isBlank c = false) → (∀ c ∈ cs, (e.count [c] : Int) ≤ target) →
    solid chunks.flatten = solid cs

theorem partitions_sentences (e : Encoding) (target : Int) (cs : List Char) :
    Partitions e target cs (sentences e target cs) where
  trimmed := trimmed_sentences e target cs
  isPrefix := solid_sentences_isPrefix cs
  whole hstart hfit := (solid_sentences_iff cs).2 (not_stalls_of_affordable hstart hfit)

theorem partitions_nil (h : isBlankText text) (e : Encoding) (target : Int) :
    Partitions e target text.toList [] where
  trimmed := by simp
  isPrefix := List.nil_prefix
  whole _ _ := ((isBlankText_iff text).1 h).symm

/-- Cutting between sentences partitions a text, whatever is to be repeated, unless the number of repeated tokens is
out of range. A ratio that is a whole number keeps it in range, and with one of at most one only the limit itself can be
out of range. -/
theorem split_sentences_partitions (text : String) (he : c.encodingOf? model = some e) (hratio : b.HasFiniteRatio) :
    (isBlankText text ∨ b.InRange →
      ∃ chunks c', split .sentences b c model text = .ok (chunks, c') ∧
        Partitions e b.target text.toList (chunks.map String.toList)) ∧
    (¬ (isBlankText text ∨ b.InRange) →
      ∃ f, split .sentences b c model text = .error f ∧ f.kind = "OverflowError") ∧
    (∀ k, b.overlapRatio = .whole k → b.InRange) ∧
    ∀ x negative m q, b.overlapRatio = .real x → Number.view x = .finite negative m q →
      (b.InRange ↔ Number.InRange b.maxTokens m q) ∧
      ((m * 2 ^ q : ℚ) ≤ 1 → (b.InRange ↔ b.maxTokens.natAbs < Number.rangeEnd)) := by
  obtain ⟨c', -, hsplit⟩ := split_of_encoding he .sentences b text
  rw [hsplit]
  refine ⟨fun h => ?_, fun h => ?_, fun k hk => Budget.inRange_of_whole hk, fun x negative m q hkind hx => ?_⟩
  · split_ifs with hblank
    · exact ⟨[], c, rfl, partitions_nil hblank e b.target⟩
    · have hask := Budget.ask_of_inRange hratio (h.resolve_left hblank)
      refine ⟨(sentences e b.target text.toList).map String.ofList, c', ?_, ?_⟩
      · rw [Strategy.asks_sentences, hask]
        rfl
      · simpa using partitions_sentences e b.target text.toList
  · rw [not_or] at h
    obtain ⟨f, hask, hkind⟩ := Budget.ask_of_not_inRange h.2
    refine ⟨f, ?_, hkind⟩
    rw [if_neg h.1, Strategy.asks_sentences, hask]
    rfl
  · have hiff := Budget.inRange_iff hkind hx
    exact ⟨hiff, fun hle => hiff.trans (Number.inRange_iff_of_le_one hle)⟩

theorem view_defaultRatio : Number.view (0.1 : Float) = .finite false 7205759403792794 (-56) := by
  decide +kernel

theorem hasFiniteRatio_of_default {b : Budget} (h : b.overlapRatio = 0.1) : b.HasFiniteRatio := by
  intro x hx
  rw [h] at hx
  cases hx
  exact ⟨_, _, _, view_defaultRatio⟩

/-- A limit at the end of the range leaves a short text without chunks, though it fits as it is and is one chunk
between lines. -/
theorem limit_at_rangeEnd_ends_split :
    (∃ f, split .sentences { maxTokens := Number.rangeEnd } {} "gpt-4o" "hello" = .error f ∧ f.kind = "OverflowError") ∧
      (split .paragraphs { maxTokens := Number.rangeEnd } {} "gpt-4o" "hello").toOption.map (·.1) = some ["hello"] := by
  have he : ({} : Counter).encodingOf? "gpt-4o" = some .o200k := by decide +kernel
  obtain ⟨-, hout, -, hrange⟩ := split_sentences_partitions (b := { maxTokens := Number.rangeEnd }) "hello" he
    (hasFiniteRatio_of_default rfl)
  refine ⟨hout ?_, by decide +kernel⟩
  rintro (hblank | hin)
  · exact absurd hblank (by decide)
  · have hsmall := ((hrange _ _ _ _ rfl view_defaultRatio).2 (by norm_num)).1 hin
    rw [Int.natAbs_natCast] at hsmall
    exact lt_irrefl _ hsmall

/-! ### Limits -/

theorem split_cases {strategy : Strategy} {chunks : List String}
    (h : split strategy b c model text = .ok (chunks, c')) :
    chunks = [] ∨ ∃ e, c'.encodingOf? model = some e ∧ chunks = (cut strategy e b text.toList).map String.ofList := by
  cases he : c.encodingOf? model with
  | none =>
    obtain ⟨f, hf⟩ := Counter.encoding_of_none he
    unfold split at h
    split_ifs at h with hblank
    · cases h
      exact .inl rfl
    · rw [hf] at h
      cases hask : b.ask strategy.asksFirst with
      | error f' =>
        rw [hask] at h
        cases h
      | ok _ =>
        rw [hask] at h
        cases h
  | some e =>
    rcases split_fails_or_cuts he strategy b text with ⟨f, hf⟩ | ⟨d, hcut, hagree⟩
    · rw [hf] at h
      cases h
    · rw [hcut] at h
      cases h
      split_ifs
      · exact .inl rfl
      · exact .inr ⟨e, hagree.encoding.trans he, rfl⟩

/-- A chunk exceeds the target by two tokens at most, and the margin makes up for them. -/
theorem count_split_sentences_le (hmargin : 2 ≤ b.margin) (hmax : b.margin ≤ b.maxTokens) {chunks : List String}
    (h : split .sentences b c model text = .ok (chunks, c')) :
    ∀ chunk ∈ chunks, ∃ n d, c'.count model chunk.toList = .ok (n, d) ∧ (n : Int) ≤ b.maxTokens := by
  rcases split_cases h with rfl | ⟨e, he, rfl⟩
  · simp
  · intro chunk hchunk
    obtain ⟨cs, hcs, rfl⟩ := List.mem_map.1 hchunk
    have htarget : 0 ≤ b.target := by
      unfold Budget.target
      omega
    have hle := count_sentences_le htarget text.toList cs hcs
    obtain ⟨d, hcount, -⟩ := Counter.count_of_encoding he cs
    refine ⟨e.count cs, d, by rwa [String.toList_ofList], ?_⟩
    unfold Budget.target at hle
    omega

/-- The limit is reached: the first cut takes the character after the line feed as well, which costs two tokens. -/
theorem count_split_sentences_eq_limit :
    ∃ c', split .sentences { maxTokens := 3, margin := 2 } { config := { encodings := [("m", "p50k_base")] } } "m"
        "ab\n😀c" = .ok (["ab\n😀", "c"], c') ∧
      (∀ chunk ∈ ["ab\n😀", "c"], ∃ n d, c'.count "m" chunk.toList = .ok (n, d) ∧ (n : Int) ≤ 3) ∧
      Encoding.p50k.count "ab\n😀".toList = 3 := by
  have hrun : (split .sentences { maxTokens := 3, margin := 2 } { config := { encodings := [("m", "p50k_base")] } } "m"
      "ab\n😀c").toOption.map (·.1) = some ["ab\n😀", "c"] := by
    decide +kernel
  obtain ⟨⟨chunks, c'⟩, hsplit, hchunks⟩ := Option.map_eq_some_iff.1 hrun
  cases hchunks
  have hok := eq_ok_of_toOption hsplit
  exact ⟨c', hok, count_split_sentences_le (by decide) (by decide) hok, by decide +kernel⟩

end Chunk

end IssuePlanner
