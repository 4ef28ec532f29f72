import IssuePlanner.Proofs.Chunk.Conservation

/-! How large chunks are. Under a target that is not negative, a chunk exceeds it by at most two tokens, as long
as no text is repeated from one chunk to the next (`count_cut_le`). Repeated text is not counted, so a chunk that starts
with it is as large as its start at least (`count_paragraphs_le_of_openings`). -/

namespace IssuePlanner.Chunk

open Tokens Text

variable {e : Encoding} {target : Int}

theorem count_sentences_le (ht : 0 ≤ target) (cs : List Char) :
    ∀ chunk ∈ sentences e target cs, (e.count chunk : Int) ≤ target + 2 := by
  fun_induction sentences e target cs with
  | case1 => simp
  | case2 => simp
  | case3 cs hne n chunk hc ih =>
    intro x hx
    rcases List.mem_cons.1 hx with rfl | hx
    · have hcut : (e.count (cs.take n) : Int) ≤ target + 2 := count_take_firstCut_le e ht cs
      have hstrip : e.count chunk ≤ e.count (cs.take n) := e.count_le_of_isInfix (strip_isInfix _)
      omega
    · exact ih x hx

namespace Collected

/-- The finished chunks and the open one are within a limit; the tokens of the open one are not underrated. -/
structure Sized (e : Encoding) (limit : Int) (s : Collected) : Prop where
  chunks : ∀ c ∈ s.chunks, (e.count c : Int) ≤ limit
  tokens : 0 ≤ s.tokens
  text_le_tokens : s.open_ ≠ [] → (e.count s.text : Int) ≤ s.tokens
  text_le_limit : s.open_ ≠ [] → (e.count s.text : Int) ≤ limit

variable {limit : Int} {s s' : Collected}

theorem Sized.close (h : s.Sized e limit) (hopen : s.open_ ≠ []) :
    ∀ c ∈ s.text :: s.chunks, (e.count c : Int) ≤ limit :=
  List.forall_mem_cons.2 ⟨h.text_le_limit hopen, h.chunks⟩

theorem Sized.flush (h : s.Sized e limit) : s.flush.Sized e limit := by
  unfold Collected.flush
  split_ifs with hopen
  · exact h
  · exact ⟨h.close (by simpa using hopen), le_rfl, by simp, by simp⟩

/-- A line keeps the chunks within a limit two tokens above the target, as long as what it carries over and the line
itself are within it. -/
theorem Outcome.sized {b : Budget} (ht : 0 ≤ b.target) (hlimit : b.target + 2 ≤ limit) {line : List Char}
    {r : Option Carry} (hout : Outcome e b s line s' r) (hr : ∀ x ∈ r, (e.count x.opening : Int) ≤ limit)
    (h : s.Sized e limit) : s'.Sized e limit := by
  cases hout with
  | cuts =>
    refine ⟨fun c hc => ?_, h.flush.tokens, fun hne => absurd rfl hne, fun hne => absurd rfl hne⟩
    rcases List.mem_append.1 hc with hc | hc
    · exact (count_sentences_le ht line c (List.mem_reverse.1 hc)).trans hlimit
    · exact h.flush.chunks c hc
  | carries _ hopen _ =>
    refine ⟨h.close hopen, Int.natCast_nonneg _, fun _ => ?_, fun _ => ?_⟩
    · rw [text_pair]
    · rw [text_pair]
      exact hr { closed := s.text, carried := overlapText b s.text, line } (Option.mem_some_self _)
  | closes hfit hopen _ =>
    refine ⟨h.close hopen, Int.natCast_nonneg _, fun _ => ?_, fun _ => ?_⟩
    · rw [text_singleton]
    · rw [text_singleton]
      omega
  | joins hfit hroom =>
    have htokens := h.tokens
    by_cases hopen : s.open_ = []
    · rw [hopen]
      refine ⟨h.chunks, by dsimp only; omega, fun _ => ?_, fun _ => ?_⟩
      · rw [text_singleton]
        dsimp only
        omega
      · rw [text_singleton]
        omega
    · -- the line feed that joins the line is the one token that the sum does not know
      have hcount : (e.count (s.text ++ '\n' :: line) : Int) ≤ s.tokens + e.count line + 1 := by
        have hall := e.count_append_newline_le s.text line
        have htext := h.text_le_tokens hopen
        omega
      have hsum := hroom hopen
      refine ⟨h.chunks, by dsimp only; omega, fun _ => ?_, fun _ => ?_⟩
      · rw [text_cons s line _ hopen]
        dsimp only
        omega
      · rw [text_cons s line _ hopen]
        omega

end Collected

/-- The chunks are within a limit two tokens above the target if every chunk that repeats text starts within it. -/
theorem count_paragraphs_le_of_openings {b : Budget} {limit : Int} (ht : 0 ≤ b.target) (hlimit : b.target + 2 ≤ limit)
    {cs : List Char} (h : ∀ r ∈ carries e b cs, (e.count r.opening : Int) ≤ limit) :
    ∀ chunk ∈ paragraphs e b cs, (e.count chunk : Int) ≤ limit := by
  have hrun : (∀ r ∈ carries e b cs, (e.count r.opening : Int) ≤ limit) →
      ((solidLines cs).foldl (Collected.step e b) {}).Sized e limit := by
    refine Collected.run_induction
      (motive := fun _ rs s => (∀ r ∈ rs, (e.count r.opening : Int) ≤ limit) → s.Sized e limit) ?_ ?_
    · exact fun _ => ⟨by simp, le_rfl, by simp, by simp⟩
    · intro seen rs s line s' r _ ih hout hrs
      obtain ⟨hrs, hr⟩ := List.forall_mem_append.1 hrs
      exact hout.sized ht hlimit (by simpa using hr) (ih hrs)
  exact fun chunk hc => (hrun h).flush.chunks chunk (List.mem_reverse.1 hc)

theorem count_paragraphs_le {b : Budget} (ht : 0 ≤ b.target) (hb : ¬ 0 < b.overlapRatio) (cs : List Char) :
    ∀ chunk ∈ paragraphs e b cs, (e.count chunk : Int) ≤ b.target + 2 :=
  count_paragraphs_le_of_openings ht le_rfl (by simp [carries_eq_nil hb])

theorem count_cut_le {b : Budget} (ht : 0 ≤ b.target) {strategy : Strategy}
    (hb : strategy = .paragraphs → ¬ 0 < b.overlapRatio) (cs : List Char) :
    ∀ chunk ∈ cut strategy e b cs, (e.count chunk : Int) ≤ b.target + 2 := by
  cases strategy with
  | sentences => exact count_sentences_le ht cs
  | paragraphs => exact count_paragraphs_le ht (hb rfl) cs

end IssuePlanner.Chunk
