import IssuePlanner.Chunk.Paragraphs
import IssuePlanner.Proofs.Text.Lines
import Mathlib.Data.Int.Order.Basic

/-! What one line does to the lines that are being collected, and what it repeats. A line is cut between sentences, joins
the open chunk, or closes it; then it may carry the end of the closed chunk over into the next one. `Outcome` says all
that a step can do, and `run_induction` takes what every step keeps to a whole run and to the texts that were carried. -/

namespace IssuePlanner.Chunk

open Tokens Text

/-- The end of a closed chunk that is repeated in front of the line that opens the next one. -/
structure Carry where
  closed : List Char
  carried : List Char
  line : List Char
  deriving DecidableEq

/-- How the next chunk starts. -/
def Carry.opening (r : Carry) : List Char := r.carried ++ '\n' :: r.line

namespace Collected

variable {e : Encoding} {b : Budget}

theorem open_flush (s : Collected) : s.flush.open_ = [] := by
  unfold flush
  split_ifs with h
  · exact List.isEmpty_iff.1 h
  · rfl

/-- What a line carries over: a line that fits, but not into the open chunk, asks for the overlap to carry text. -/
def carry? (e : Encoding) (b : Budget) (s : Collected) (line : List Char) : Option Carry :=
  if s.asksOverlap e b line && decide ((e.count line : Int) ≤ b.target) then
    some { closed := s.text, carried := overlapText b s.text, line }
  else none

def carriesFrom (e : Encoding) (b : Budget) : Collected → List (List Char) → List Carry
  | _, [] => []
  | s, line :: rest => (s.carry? e b line).toList ++ carriesFrom e b (s.step e b line) rest

/-- What a line makes of the lines collected so far, with what it carries over. -/
inductive Outcome (e : Encoding) (b : Budget) (s : Collected) (line : List Char) : Collected → Option Carry → Prop where
  | cuts : b.target < e.count line →
      Outcome e b s line
        { chunks := (sentences e b.target line).reverse ++ s.flush.chunks, open_ := [], tokens := s.flush.tokens } none
  | carries : (e.count line : Int) ≤ b.target → s.open_ ≠ [] → 0 < b.overlapRatio →
      Outcome e b s line
        { chunks := s.text :: s.chunks
          open_ := [line, overlapText b s.text]
          tokens := e.count (overlapText b s.text ++ '\n' :: line) }
        (some { closed := s.text, carried := overlapText b s.text, line })
  | closes : (e.count line : Int) ≤ b.target → s.open_ ≠ [] → ¬ 0 < b.overlapRatio →
      Outcome e b s line { chunks := s.text :: s.chunks, open_ := [line], tokens := e.count line } none
  | joins : (e.count line : Int) ≤ b.target → (s.open_ ≠ [] → s.tokens + e.count line ≤ b.target) →
      Outcome e b s line { s with open_ := line :: s.open_, tokens := s.tokens + e.count line + 2 } none

theorem outcome_step (e : Encoding) (b : Budget) (s : Collected) (line : List Char) :
    Outcome e b s line (s.step e b line) (s.carry? e b line) := by
  have hjoin (o : List Char) : Text.joinWith ['\n'] [o, line] = o ++ '\n' :: line := by
    rw [joinWith_cons_cons, joinWith_singleton, List.singleton_append]
  unfold step carry? asksOverlap
  dsimp only
  by_cases hlong : b.target < e.count line
  · rw [if_pos hlong, if_neg (by simpa using fun _ => hlong)]
    show Outcome e b s line ⟨_, s.flush.open_, _⟩ none
    rw [open_flush]
    exact .cuts hlong
  have hfit : (e.count line : Int) ≤ b.target := not_lt.1 hlong
  rw [if_neg hlong]
  by_cases hfull : b.target < s.tokens + e.count line ∧ s.open_ ≠ []
  · rw [if_pos (by simpa using hfull)]
    by_cases hratio : 0 < b.overlapRatio
    · rw [if_pos hratio, if_pos (by simpa [hlong, hfit, hratio] using hfull)]
      simp only [List.reverse_cons, List.reverse_nil, List.nil_append, List.singleton_append, hjoin]
      exact .carries hfit hfull.2 hratio
    · rw [if_neg hratio, if_neg (by simp [hlong, hratio])]
      exact .closes hfit hfull.2 hratio
  · rw [if_neg (by simpa using hfull), if_neg]
    · refine .joins hfit fun hopen => ?_
      by_contra hgt
      exact hfull ⟨not_le.1 hgt, hopen⟩
    · intro hasks
      simp only [Bool.and_eq_true, Bool.or_eq_true, decide_eq_true_eq, Bool.not_eq_true', List.isEmpty_eq_false_iff] at hasks
      obtain ⟨hlong' | ⟨⟨hgt, hopen⟩, -⟩, -⟩ := hasks
      · exact hlong hlong'
      · exact hfull ⟨hgt, hopen⟩

/-- What holds at the start and is kept by every line holds after a whole run. -/
theorem run_induction {lines : List (List Char)} {motive : List (List Char) → List Carry → Collected → Prop}
    (start : motive [] [] {})
    (step : ∀ {seen rs s line s' r}, line ∈ lines → motive seen rs s → Outcome e b s line s' r →
      motive (seen ++ [line]) (rs ++ r.toList) s') :
    motive lines (carriesFrom e b {} lines) (lines.foldl (Collected.step e b) {}) := by
  have hrun (rest : List (List Char)) : ∀ seen rs s, rest ⊆ lines → motive seen rs s →
      motive (seen ++ rest) (rs ++ carriesFrom e b s rest) (rest.foldl (Collected.step e b) s) := by
    induction rest with
    | nil =>
      intro seen rs s _ h
      simpa [carriesFrom] using h
    | cons line rest ih =>
      intro seen rs s hsub h
      have hnext := ih _ _ _ (List.subset_of_cons_subset hsub) (step (hsub (by simp)) h (outcome_step e b s line))
      simpa [carriesFrom] using hnext
  exact hrun lines [] [] {} (List.Subset.refl _) start

/-- A line asks for the overlap if it is too long or carries text over. -/
theorem asksOverlap_iff (s : Collected) (line : List Char) :
    s.asksOverlap e b line = true ↔ b.target < e.count line ∨ (s.carry? e b line).isSome = true := by
  unfold carry?
  by_cases hlong : b.target < e.count line
  · simp [hlong, asksOverlap]
  · have hfit : (e.count line : Int) ≤ b.target := not_lt.1 hlong
    by_cases hasks : s.asksOverlap e b line = true
    · simp [hasks, hfit]
    · simp [hasks, hlong]

theorem everAsks_iff (s : Collected) (lines : List (List Char)) :
    everAsks e b s lines = true ↔ (∃ l ∈ lines, b.target < e.count l) ∨ carriesFrom e b s lines ≠ [] := by
  induction lines generalizing s with
  | nil => simp [everAsks, carriesFrom]
  | cons line rest ih =>
    have hcarries : carriesFrom e b s (line :: rest) ≠ [] ↔
        (s.carry? e b line).isSome = true ∨ carriesFrom e b (s.step e b line) rest ≠ [] := by
      cases hcarry : s.carry? e b line <;> simp [carriesFrom, hcarry]
    rw [everAsks, Bool.or_eq_true, asksOverlap_iff, ih, List.exists_mem_cons_iff, hcarries]
    exact or_or_or_comm

/-! ### The open chunk -/

theorem text_cons (s : Collected) (line : List Char) (tokens : Int) (h : s.open_ ≠ []) :
    ({ s with open_ := line :: s.open_, tokens } : Collected).text = s.text ++ '\n' :: line := by
  rw [text, List.reverse_cons, joinWith_append (by simpa using h) (by simp), joinWith_singleton, text,
    List.singleton_append]

theorem text_singleton (chunks : List (List Char)) (line : List Char) (tokens : Int) :
    ({ chunks, open_ := [line], tokens } : Collected).text = line := joinWith_singleton _ _

theorem text_pair (chunks : List (List Char)) (o line : List Char) (tokens : Int) :
    ({ chunks, open_ := [line, o], tokens } : Collected).text = o ++ '\n' :: line := by
  rw [text_cons { chunks, open_ := [o], tokens } line tokens (by simp), text_singleton]

/-- The chunks of a text if no line follows. -/
def result (s : Collected) : List (List Char) := s.flush.chunks.reverse

theorem result_of_open {s : Collected} (h : s.open_ ≠ []) : s.result = s.chunks.reverse ++ [s.text] := by
  rw [result, flush, if_neg (by simpa using h), List.reverse_cons]

theorem result_of_closed {s : Collected} (h : s.open_ = []) : s.result = s.chunks.reverse := by
  rw [result, flush, if_pos (by simpa using h)]

theorem Outcome.result_eq {s s' : Collected} {line : List Char} {r : Option Carry} (h : Outcome e b s line s' r) :
    (∃ more, s'.result = s.result ++ more) ∨
      ∃ front last, s.result = front ++ [last] ∧ s'.result = front ++ [last ++ '\n' :: line] := by
  cases h with
  | cuts =>
    left
    refine ⟨sentences e b.target line, ?_⟩
    rw [result_of_closed rfl, List.reverse_append, List.reverse_reverse]
    rfl
  | carries _ hopen _ =>
    left
    refine ⟨[overlapText b s.text ++ '\n' :: line], ?_⟩
    rw [result_of_open hopen, result_of_open (by simp), List.reverse_cons, text_pair]
  | closes _ hopen _ =>
    left
    refine ⟨[line], ?_⟩
    rw [result_of_open hopen, result_of_open (by simp), List.reverse_cons, text_singleton]
  | joins =>
    rw [result_of_open (by simp)]
    by_cases hopen : s.open_ = []
    · left
      exact ⟨_, by rw [result_of_closed hopen]⟩
    · right
      refine ⟨s.chunks.reverse, s.text, result_of_open hopen, ?_⟩
      rw [text_cons s line _ hopen]

end Collected

/-! ### What is carried shows in the chunks -/

/-- The chunk that was closed is followed by one that starts with what was carried over and the line. -/
def Carry.ShownIn (r : Carry) (chunks : List (List Char)) : Prop :=
  ∃ rest, [r.closed, r.opening ++ rest] <:+: chunks

theorem Carry.ShownIn.append {r : Carry} {chunks : List (List Char)} (h : r.ShownIn chunks) (more : List (List Char)) :
    r.ShownIn (chunks ++ more) := by
  obtain ⟨rest, hshown⟩ := h
  exact ⟨rest, hshown.trans (List.prefix_append _ _).isInfix⟩

theorem Carry.ShownIn.extend {r : Carry} {front : List (List Char)} {last : List Char}
    (h : r.ShownIn (front ++ [last])) (more : List Char) : r.ShownIn (front ++ [last ++ more]) := by
  obtain ⟨rest, before, after, heq⟩ := h
  rcases List.eq_nil_or_concat after with rfl | ⟨after, x, rfl⟩
  · -- the chunk behind the closed one is the last one, so it goes on
    have hlast : before ++ [r.closed] ++ [r.opening ++ rest] = front ++ [last] := by simpa using heq
    obtain ⟨rfl, hsame⟩ := List.append_inj' hlast rfl
    obtain rfl := List.singleton_inj.1 hsame
    exact ⟨rest ++ more, before, [], by simp⟩
  · have hlast : before ++ [r.closed, r.opening ++ rest] ++ after ++ [x] = front ++ [last] := by simpa using heq
    obtain ⟨rfl, -⟩ := List.append_inj' hlast rfl
    exact ⟨rest, before, after ++ [last ++ more], by simp⟩

def carries (e : Encoding) (b : Budget) (cs : List Char) : List Carry := Collected.carriesFrom e b {} (solidLines cs)

variable {e : Encoding} {b : Budget}

theorem carries_eq_nil (hb : ¬ 0 < b.overlapRatio) (cs : List Char) : carries e b cs = [] := by
  refine Collected.run_induction (motive := fun _ rs _ => rs = []) rfl ?_
  intro seen rs s line s' r _ ih hout
  cases hout with
  | carries _ _ hratio => exact absurd hratio hb
  | cuts => simpa using ih
  | closes => simpa using ih
  | joins => simpa using ih

theorem shownIn_paragraphs (e : Encoding) (b : Budget) (cs : List Char) :
    ∀ r ∈ carries e b cs, r.ShownIn (paragraphs e b cs) := by
  refine Collected.run_induction (motive := fun _ rs s => ∀ r ∈ rs, r.ShownIn s.result) (by simp) ?_
  intro seen rs s line s' r? _ ih hout r hr
  rcases List.mem_append.1 hr with hr | hr
  · rcases hout.result_eq with ⟨more, heq⟩ | ⟨front, last, heq, heq'⟩
    · rw [heq]
      exact (ih r hr).append more
    · rw [heq']
      exact (heq ▸ ih r hr).extend _
  · cases hout with
    | carries _ hopen _ =>
      cases List.mem_singleton.1 hr
      refine ⟨[], s.chunks.reverse, [], ?_⟩
      rw [Collected.result_of_open (by simp), List.reverse_cons, Collected.text_pair]
      simp [Carry.opening]
    | cuts => cases hr
    | closes => cases hr
    | joins => cases hr

end IssuePlanner.Chunk
