import IssuePlanner.Outline.Script.Grammar.Statement
import IssuePlanner.Proofs.Text.NormalForm
import Mathlib.Data.List.TakeWhile

/-! Names are words. A name token is cut out as a run of characters of words, so the names among the tokens of a script
are words (`Lexer.worded_tokens`). -/

namespace IssuePlanner.Outline.Script

open Text (IsWord)

/-- A token that is no name, or a name that is a word. -/
def Token.Worded : Token → Prop
  | .name s => IsWord s.toList
  | _ => True

def WordedTokens (ts : List Token) : Prop := ∀ t ∈ ts, t.Worded

namespace Lexer

variable {s s' : State}

theorem worded_enterLine {blocks blocks' : List (Nat × Nat)} {wide narrow : Nat} {ts : List Token}
    (h : enterLine blocks wide narrow = some (blocks', ts)) : WordedTokens ts := by
  unfold enterLine at h
  dsimp only at h
  split_ifs at h
  · cases h
    simp [WordedTokens]
  · cases h
    simp [WordedTokens, Token.Worded]
  · cases h
    intro t ht
    obtain rfl := List.eq_of_mem_replicate ht
    trivial

theorem worded_stringFrom {letters r rest : List Char} {quote : Char} {t : Token}
    (h : stringFrom letters quote r = some (t, rest)) : t.Worded := by
  unfold stringFrom at h
  dsimp only at h
  split at h
  · split_ifs at h
    · obtain ⟨_, _, h⟩ := Option.map_eq_some_iff.1 h
      cases h
      trivial
    · cases h
      trivial
    · obtain ⟨_, _, h⟩ := Option.map_eq_some_iff.1 h
      cases h
      trivial
  · split_ifs at h
    cases h
    trivial
  · cases h

theorem worded_operator {brackets brackets' cs r rest : List Char} {c : Char} {t : Token}
    (h : operator brackets c cs r = some (t, brackets', rest)) : t.Worded := by
  unfold operator at h
  dsimp only at h
  split at h
  · cases h
    trivial
  · split_ifs at h
    · cases h
      trivial
    · split at h
      · split at h
        · split_ifs at h
          cases h
          trivial
        · cases h
      · cases h
        trivial

theorem worded_startLine (h : WordedTokens s.tokens) (hstep : startLine s = some s') : WordedTokens s'.tokens := by
  unfold startLine at hstep
  obtain ⟨⟨m, rest⟩, -, hstep⟩ := Option.bind_eq_some_iff.1 hstep
  dsimp only at hstep
  split at hstep
  · cases hstep
    exact h
  split at hstep
  · cases hstep
    exact h
  · obtain ⟨⟨blocks, ts⟩, hline, hstep⟩ := Option.bind_eq_some_iff.1 hstep
    cases hstep
    exact List.forall_mem_append.2 ⟨worded_enterLine hline, h⟩

/-- Inside a line, each step adds at most one token, and a name only where a run of characters of words stands. -/
theorem worded_insideLine (h : WordedTokens s.tokens) (hstep : insideLine s = some s') : WordedTokens s'.tokens := by
  have hput {t : Token} (ht : t.Worded) : WordedTokens (t :: s.tokens) := List.forall_mem_cons.2 ⟨ht, h⟩
  have hword (cs : List Char) : (Token.name (String.ofList (cs.takeWhile isLetterLike))).Worded := by
    intro c hc
    rw [String.toList_ofList] at hc
    exact List.mem_takeWhile_imp hc
  unfold insideLine at hstep
  dsimp only at hstep
  split at hstep
  · cases hstep
    exact h
  · cases hstep
    exact h
  · cases hstep
    dsimp only
    split_ifs
    · exact hput trivial
    · exact h
  · cases hstep
  · cases hstep
    exact h
  · cases hstep
  · split at hstep
    · obtain ⟨⟨lexeme, rest⟩, -, hstep⟩ := Option.map_eq_some_iff.1 hstep
      cases hstep
      exact hput trivial
    split at hstep
    · split at hstep
      · split at hstep
        · obtain ⟨⟨t, rest⟩, hstring, hstep⟩ := Option.map_eq_some_iff.1 hstep
          cases hstep
          exact hput (worded_stringFrom hstring)
        · split_ifs at hstep
          cases hstep
          exact hput (hword _)
      · split_ifs at hstep
        cases hstep
        exact hput (hword _)
    split at hstep
    · obtain ⟨⟨t, rest⟩, hstring, hstep⟩ := Option.map_eq_some_iff.1 hstep
      cases hstep
      exact hput (worded_stringFrom hstring)
    · obtain ⟨⟨t, brackets, rest⟩, hop, hstep⟩ := Option.map_eq_some_iff.1 hstep
      cases hstep
      exact hput (worded_operator hop)

theorem worded_run {n : Nat} (h : WordedTokens s.tokens) (hrun : run n s = some s') : WordedTokens s'.tokens := by
  induction n generalizing s with
  | zero => cases hrun
  | succ n ih =>
    rw [run] at hrun
    split_ifs at hrun with hdone hstart
    · cases hrun
      exact h
    · obtain ⟨s₁, hstep, hrun⟩ := Option.bind_eq_some_iff.1 hrun
      exact ih (worded_startLine h hstep) hrun
    · obtain ⟨s₁, hstep, hrun⟩ := Option.bind_eq_some_iff.1 hrun
      exact ih (worded_insideLine h hstep) hrun

theorem worded_tokens {source : List Char} {ts : List Token} (h : tokens? source = some ts) : WordedTokens ts := by
  unfold tokens? at h
  split at h
  · cases h
  · obtain ⟨s, hrun, h⟩ := Option.bind_eq_some_iff.1 h
    split_ifs at h
    cases h
    have htokens := worded_run (by simp [WordedTokens]) hrun
    refine List.forall_mem_append.2 ⟨fun t ht => htokens t (List.mem_reverse.1 ht), fun t ht => ?_⟩
    obtain ⟨_, -, rfl⟩ := List.mem_map.1 ht
    trivial

end Lexer

end IssuePlanner.Outline.Script
