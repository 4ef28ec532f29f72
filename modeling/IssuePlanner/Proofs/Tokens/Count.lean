import IssuePlanner.Tokens.Limit
import Mathlib.Tactic.Linarith

/-! How the number of tokens of a text grows. A part of a text has at most its tokens, a text has at most the
tokens of its two halves, and one character has one or two. So the lengths of the prefixes that fit a limit
are an initial segment, and the halving search finds the last of them (`lastAccepted_isGreatest`). -/

namespace IssuePlanner.Tokens

namespace Encoding

theorem ceilDiv_mono {m n d : Nat} (h : m ≤ n) : ceilDiv m d ≤ ceilDiv n d :=
  Nat.div_le_div_right (by omega)

/-- Rounding up two parts on their own gives no less than rounding up the whole. -/
theorem ceilDiv_add_le (m n : Nat) {d : Nat} (hd : 0 < d) :
    ceilDiv (m + n) d ≤ ceilDiv m d + ceilDiv n d := by
  unfold ceilDiv
  have h : m + n + d - 1 ≤ (m + d - 1) + (n + d - 1) / d * d := by
    have := Nat.lt_div_mul_add hd (a := n + d - 1)
    omega
  calc (m + n + d - 1) / d ≤ ((m + d - 1) + (n + d - 1) / d * d) / d := Nat.div_le_div_right h
    _ = (m + d - 1) / d + (n + d - 1) / d := Nat.add_mul_div_right _ _ hd

theorem ceilDiv_pos {n d : Nat} (hn : 0 < n) (hd : 0 < d) : 0 < ceilDiv n d :=
  Nat.div_pos (by omega) hd

/-! ### Counting words

`wordTokens k cs` counts the tokens of `cs` behind `k` characters of an open word. -/

def wordTokens : Nat → List Char → Nat
  | k, [] => ceilDiv k 6
  | k, c :: cs =>
    if c = ' ' then ceilDiv k 6 + wordTokens 0 cs
    else if c = '\n' then ceilDiv k 6 + 1 + wordTokens 0 cs
    else wordTokens (k + 1) cs

theorem foldl_wordStep (cs : List Char) (n k : Nat) :
    (cs.foldl wordStep (n, k)).1 + ceilDiv (cs.foldl wordStep (n, k)).2 6 = n + wordTokens k cs := by
  induction cs generalizing n k with
  | nil => rfl
  | cons c cs ih =>
    simp only [List.foldl_cons, wordTokens, wordStep]
    split_ifs
    · rw [ih]; omega
    · rw [ih]; omega
    · rw [ih]

theorem count_o200k (cs : List Char) : count o200k cs = wordTokens 0 cs := by
  have h := foldl_wordStep cs 0 0
  rw [Nat.zero_add] at h
  exact h

theorem wordTokens_mono {j k : Nat} (h : j ≤ k) (cs : List Char) : wordTokens j cs ≤ wordTokens k cs := by
  have hjk : ceilDiv j 6 ≤ ceilDiv k 6 := ceilDiv_mono h
  induction cs generalizing j k with
  | nil => exact hjk
  | cons c cs ih =>
    simp only [wordTokens]
    split_ifs
    · omega
    · omega
    · exact ih (by omega) (ceilDiv_mono (by omega))

theorem ceilDiv_le_wordTokens (k : Nat) (cs : List Char) : ceilDiv k 6 ≤ wordTokens k cs := by
  induction cs generalizing k with
  | nil => exact le_rfl
  | cons c cs ih =>
    simp only [wordTokens]
    split_ifs
    · omega
    · omega
    · exact (ceilDiv_mono (Nat.le_succ k)).trans (ih (k + 1))

theorem wordTokens_append_left (k : Nat) (as bs : List Char) : wordTokens k as ≤ wordTokens k (as ++ bs) := by
  induction as generalizing k with
  | nil => exact ceilDiv_le_wordTokens k bs
  | cons c as ih =>
    simp only [wordTokens, List.cons_append]
    split_ifs
    · exact Nat.add_le_add_left (ih 0) _
    · exact Nat.add_le_add_left (ih 0) _
    · exact ih (k + 1)

theorem wordTokens_append_right (k : Nat) (as bs : List Char) : wordTokens 0 bs ≤ wordTokens k (as ++ bs) := by
  induction as generalizing k with
  | nil => exact wordTokens_mono (Nat.zero_le k) bs
  | cons c as ih =>
    have h0 := ih 0
    simp only [wordTokens, List.cons_append]
    split_ifs
    · omega
    · omega
    · exact ih (k + 1)

theorem wordTokens_add_le (k j : Nat) (cs : List Char) :
    wordTokens (k + j) cs ≤ ceilDiv k 6 + wordTokens j cs := by
  have hkj := ceilDiv_add_le k j (d := 6) (by omega)
  induction cs generalizing j with
  | nil => exact hkj
  | cons c cs ih =>
    simp only [wordTokens]
    split_ifs
    · omega
    · omega
    · exact ih (j + 1) (ceilDiv_add_le k (j + 1) (by omega))

theorem wordTokens_append_le (k : Nat) (as bs : List Char) :
    wordTokens k (as ++ bs) ≤ wordTokens k as + wordTokens 0 bs := by
  induction as generalizing k with
  | nil => exact wordTokens_add_le k 0 bs
  | cons c as ih =>
    have h0 := ih 0
    simp only [wordTokens, List.cons_append]
    split_ifs
    · omega
    · omega
    · exact ih (k + 1)

/-! ### All encodings -/

theorem foldl_utf8Size (cs : List Char) (n : Nat) :
    cs.foldl (fun n c => n + c.utf8Size) n = n + (cs.map Char.utf8Size).sum := by
  induction cs generalizing n with
  | nil => rfl
  | cons c cs ih => simp only [List.foldl_cons, ih, List.map_cons, List.sum_cons]; omega

theorem count_p50k (cs : List Char) : count p50k cs = ceilDiv (cs.map Char.utf8Size).sum 3 := by
  show ceilDiv (cs.foldl (fun n c => n + c.utf8Size) 0) 3 = _
  rw [foldl_utf8Size, Nat.zero_add]

@[simp] theorem count_nil (e : Encoding) : e.count [] = 0 := by
  cases e <;> rfl

theorem count_append_left (e : Encoding) (as bs : List Char) : e.count as ≤ e.count (as ++ bs) := by
  cases e with
  | cl100k => exact ceilDiv_mono (by simp)
  | o200k => rw [count_o200k, count_o200k]; exact wordTokens_append_left 0 as bs
  | p50k => rw [count_p50k, count_p50k]; exact ceilDiv_mono (by simp)
  | r50k => simp [count]

theorem count_append_right (e : Encoding) (as bs : List Char) : e.count bs ≤ e.count (as ++ bs) := by
  cases e with
  | cl100k => exact ceilDiv_mono (by simp)
  | o200k => rw [count_o200k, count_o200k]; exact wordTokens_append_right 0 as bs
  | p50k => rw [count_p50k, count_p50k]; exact ceilDiv_mono (by simp)
  | r50k => simp [count]

/-- Cutting a text in two never lowers the number of tokens. -/
theorem count_append_le (e : Encoding) (as bs : List Char) : e.count (as ++ bs) ≤ e.count as + e.count bs := by
  cases e with
  | cl100k =>
    show ceilDiv (as ++ bs).length 4 ≤ _
    rw [List.length_append]
    exact ceilDiv_add_le _ _ (by omega)
  | o200k => rw [count_o200k, count_o200k, count_o200k]; exact wordTokens_append_le 0 as bs
  | p50k =>
    rw [count_p50k, count_p50k, count_p50k, List.map_append, List.sum_append]
    exact ceilDiv_add_le _ _ (by omega)
  | r50k => simp [count]

theorem count_le_of_isInfix (e : Encoding) {as bs : List Char} (h : as <:+: bs) : e.count as ≤ e.count bs := by
  obtain ⟨x, y, rfl⟩ := h
  exact (e.count_append_right x as).trans (e.count_append_left (x ++ as) y)

theorem count_take_mono (e : Encoding) (cs : List Char) {m n : Nat} (h : m ≤ n) :
    e.count (cs.take m) ≤ e.count (cs.take n) :=
  e.count_le_of_isInfix ((List.take_prefix_take_left h).isInfix)

theorem count_singleton_le (e : Encoding) (c : Char) : e.count [c] ≤ 2 := by
  cases e with
  | cl100k =>
    show ceilDiv 1 4 ≤ 2
    decide
  | o200k => rw [count_o200k]; simp only [wordTokens]; split_ifs <;> decide
  | p50k =>
    have h : ([c].map Char.utf8Size).sum ≤ 4 := by simpa using Char.utf8Size_le_four c
    rw [count_p50k]
    exact (ceilDiv_mono h).trans (by decide)
  | r50k => exact Nat.le_succ 1

theorem count_singleton_pos (e : Encoding) {c : Char} (h : c ≠ ' ') : 0 < e.count [c] := by
  cases e with
  | cl100k =>
    show 0 < ceilDiv 1 4
    decide
  | o200k => rw [count_o200k]; simp only [wordTokens, if_neg h]; split_ifs <;> decide
  | p50k =>
    rw [count_p50k]
    refine ceilDiv_pos ?_ (by omega)
    simpa using Char.utf8Size_pos c
  | r50k => exact Nat.one_pos

theorem count_newline (e : Encoding) : e.count ['\n'] = 1 := by
  cases e <;> rfl

/-- Two texts with a line feed between them have one token more than each on its own, at most. -/
theorem count_append_newline_le (e : Encoding) (as bs : List Char) :
    e.count (as ++ '\n' :: bs) ≤ e.count as + e.count bs + 1 := by
  have hall := e.count_append_le as ('\n' :: bs)
  have hfeed := e.count_append_le ['\n'] bs
  rw [e.count_newline, List.singleton_append] at hfeed
  omega

theorem count_le_two_mul_length (e : Encoding) (cs : List Char) : e.count cs ≤ 2 * cs.length := by
  induction cs with
  | nil => simp
  | cons c cs ih =>
    have happend := e.count_append_le [c] cs
    have hone := e.count_singleton_le c
    rw [List.singleton_append] at happend
    rw [List.length_cons]
    omega

theorem count_pos_of_mem (e : Encoding) {c : Char} {cs : List Char} (hc : c ∈ cs) (h : c ≠ ' ') :
    0 < e.count cs := by
  obtain ⟨as, bs, rfl⟩ := List.append_of_mem hc
  have hi : [c] <:+: as ++ c :: bs := ⟨as, bs, by simp⟩
  exact (e.count_singleton_pos h).trans_le (e.count_le_of_isInfix hi)

end Encoding

/-! ### The halving search -/

/-- The search for a limit on a test that fails from some point on finds the last number that passes, and
keeps its default if there is none. -/
theorem lastAccepted_isGreatest {accept : Nat → Bool} (mono : ∀ m n, m ≤ n → accept n → accept m)
    (lo hi best : Nat) :
    (lastAccepted accept lo hi best = best ∧ ∀ n, lo ≤ n → n < hi → accept n = false) ∨
      (lo ≤ lastAccepted accept lo hi best ∧ lastAccepted accept lo hi best < hi ∧
        accept (lastAccepted accept lo hi best) ∧
        ∀ n, n < hi → accept n → n ≤ lastAccepted accept lo hi best) := by
  fun_induction lastAccepted accept lo hi best with
  | case1 lo hi best h mid hm ih =>
    have hmid : mid = (lo + hi - 1) / 2 := rfl
    right
    rcases ih with ⟨he, hno⟩ | ⟨hl, hh, ha, hg⟩
    · rw [he]
      refine ⟨by omega, by omega, hm, fun n hn ha => ?_⟩
      by_contra hlt
      have := hno n (by omega) hn
      simp [ha] at this
    · exact ⟨by omega, hh, ha, hg⟩
  | case2 lo hi best h mid hm ih =>
    have hmid : mid = (lo + hi - 1) / 2 := rfl
    have habove : ∀ n, mid ≤ n → accept n = false := fun n hn => by
      by_contra hne
      exact hm (mono mid n hn (by simpa using hne))
    rcases ih with ⟨he, hno⟩ | ⟨hl, hh, ha, hg⟩
    · left
      refine ⟨he, fun n hl _ => ?_⟩
      rcases Nat.lt_or_ge n mid with hn | hn
      · exact hno n hl hn
      · exact habove n hn
    · right
      refine ⟨hl, by omega, ha, fun n _ hn => ?_⟩
      apply hg n _ hn
      by_contra hge
      simp [habove n (by omega)] at hn
  | case3 lo hi best h =>
    left
    exact ⟨rfl, fun n h1 h2 => by omega⟩

theorem accepts_mono (e : Encoding) (limit : Int) (cs : List Char) (m n : Nat) (hmn : m ≤ n)
    (hn : decide ((e.count (cs.take n) : Int) ≤ limit) = true) :
    decide ((e.count (cs.take m) : Int) ≤ limit) = true := by
  have h := e.count_take_mono cs hmn
  simp only [decide_eq_true_eq] at hn ⊢
  omega

/-- For a limit that is not negative the search finds the longest prefix that fits, whatever its default. -/
theorem lastAccepted_fits (e : Encoding) {limit : Int} (hlimit : 0 ≤ limit) (cs : List Char) {best k : Nat}
    (hk : lastAccepted (fun n => decide ((e.count (cs.take n) : Int) ≤ limit)) 0 (cs.length + 1) best = k) :
    k ≤ cs.length ∧ (e.count (cs.take k) : Int) ≤ limit ∧
      ∀ n, n ≤ cs.length → (e.count (cs.take n) : Int) ≤ limit → n ≤ k := by
  subst hk
  rcases lastAccepted_isGreatest (accepts_mono e limit cs) 0 (cs.length + 1) best with ⟨_, hno⟩ | ⟨_, hlt, ha, hg⟩
  · have hzero := hno 0 le_rfl (Nat.succ_pos _)
    simp only [List.take_zero, Encoding.count_nil, Nat.cast_zero, decide_eq_false_iff_not] at hzero
    exact absurd hlimit hzero
  · refine ⟨Nat.le_of_lt_succ hlt, of_decide_eq_true ha, fun n hn hc => ?_⟩
    exact hg n (Nat.lt_succ_of_le hn) (by simpa using hc)

end IssuePlanner.Tokens
