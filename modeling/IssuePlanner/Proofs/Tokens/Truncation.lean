import IssuePlanner.Proofs.Tokens.Limit
import Mathlib.Data.Nat.Find

/-! What is left of a text that is cut. Looking at every prefix and at every character finds the same cut as halving
and searching from the end: the halving search finds the longest prefix that fits (`fittingLength_eq`), which is then
cut back to its last line feed (`cutAtLine_eq_take`). So a text is left alone or loses as little as whole lines allow
(`limited_keeps_lines`). What was cut may read as before: a text can end in the notice already (`noticedText_comes_back`). -/

namespace IssuePlanner.Text

theorem not_mem_of_findAt_none {c : Char} {cs : List Char} {k : Nat} (h : findAt [c] k cs = none) : c ∉ cs := by
  induction cs generalizing k with
  | nil => exact List.not_mem_nil
  | cons d cs ih =>
    rw [findAt] at h
    split_ifs at h with hd
    have hcd : c ≠ d := by simpa using hd
    exact List.not_mem_cons_of_ne_of_not_mem hcd (ih h)

theorem not_mem_of_findLast_none {c : Char} {cs : List Char} (h : findLast cs [c] = none) : c ∉ cs := by
  have hnone : findAt [c] 0 cs.reverse = none := Option.map_eq_none_iff.1 h
  simpa using not_mem_of_findAt_none hnone

end IssuePlanner.Text

namespace IssuePlanner.Tokens

/-! ### The longest prefix that fits -/

/-- The greatest length of a prefix with at most `limit` tokens; zero if there is none. -/
def greatestFit (e : Encoding) (cs : List Char) (limit : Int) : Nat :=
  Nat.findGreatest (fun n => (e.count (cs.take n) : Int) ≤ limit) cs.length

theorem lastAccepted_eq_findGreatest {P : Nat → Prop} [DecidablePred P] (mono : ∀ m n, m ≤ n → P n → P m) (n : Nat) :
    lastAccepted (fun m => decide (P m)) 0 (n + 1) 0 = Nat.findGreatest P n := by
  have hmono : ∀ m n, m ≤ n → decide (P n) = true → decide (P m) = true := by simpa using mono
  symm
  rcases lastAccepted_isGreatest hmono 0 (n + 1) 0 with ⟨hzero, hno⟩ | ⟨-, hlt, haccept, hmax⟩
  · rw [hzero, Nat.findGreatest_eq_zero_iff]
    intro m _ hm
    exact of_decide_eq_false (hno m (Nat.zero_le m) (Nat.lt_succ_of_le hm))
  · rw [Nat.findGreatest_eq_iff]
    refine ⟨Nat.le_of_lt_succ hlt, fun _ => of_decide_eq_true haccept, fun m hm hle hP => ?_⟩
    exact absurd (hmax m (Nat.lt_succ_of_le hle) (decide_eq_true hP)) (Nat.not_le.2 hm)

theorem fittingLength_eq (e : Encoding) (cs : List Char) (limit : Int) :
    fittingLength e cs limit = greatestFit e cs limit :=
  lastAccepted_eq_findGreatest (fun _ _ hmn hn => (Int.ofNat_le.2 (e.count_take_mono cs hmn)).trans hn) cs.length

/-! ### The end of a line -/

/-- The place of the last line feed, if that is not the first character; else the end of the text. -/
def lastLineEnd (cs : List Char) : Nat :=
  let n := Nat.findGreatest (fun n => cs[n]? = some '\n') cs.length
  if 0 < n then n else cs.length

theorem findGreatest_newline {as bs : List Char} (h : '\n' ∉ bs) :
    Nat.findGreatest (fun n => (as ++ '\n' :: bs)[n]? = some '\n') (as ++ '\n' :: bs).length = as.length := by
  rw [Nat.findGreatest_eq_iff]
  refine ⟨by simp, fun _ => by simp, fun n hn _ hfeed => ?_⟩
  obtain ⟨k, rfl⟩ := Nat.exists_eq_add_of_lt hn
  rw [List.getElem?_append_right (by omega), show as.length + k + 1 - as.length = k + 1 by omega,
    List.getElem?_cons_succ] at hfeed
  exact h (List.mem_of_getElem? hfeed)

theorem findGreatest_no_newline {cs : List Char} (h : '\n' ∉ cs) :
    Nat.findGreatest (fun n => cs[n]? = some '\n') cs.length = 0 := by
  rw [Nat.findGreatest_eq_zero_iff]
  exact fun n _ _ hfeed => h (List.mem_of_getElem? hfeed)

theorem cutAtLine_eq_take (cs : List Char) : cutAtLine cs = cs.take (lastLineEnd cs) := by
  cases hlast : Text.findLast cs ['\n'] with
  | none =>
    have hzero := findGreatest_no_newline (Text.not_mem_of_findLast_none hlast)
    rw [cutAtLine, hlast, lastLineEnd, hzero]
    exact List.take_length.symm
  | some n =>
    obtain ⟨as, bs, rfl, hbs, rfl⟩ := Text.findLast_singleton_some hlast
    rw [cutAtLine, hlast, lastLineEnd, findGreatest_newline hbs]
    by_cases hpos : 0 < as.length
    · simp only [if_pos hpos]
    · simp only [if_neg hpos, List.take_length]

theorem lastLineEnd_le (cs : List Char) : lastLineEnd cs ≤ cs.length := by
  rw [lastLineEnd]
  split_ifs
  · exact Nat.findGreatest_le _
  · exact le_rfl

/-! ### The cut text -/

/-- How much of a text with more than `limit` tokens is kept. -/
def keptLength (e : Encoding) (cs : List Char) (limit : Int) : Nat := lastLineEnd (cs.take (greatestFit e cs limit))

theorem cut_eq (e : Encoding) (cs : List Char) (limit : Int) :
    cut e cs limit = cs.take (keptLength e cs limit) ++ cutNotice.toList := by
  have hle : keptLength e cs limit ≤ greatestFit e cs limit :=
    (lastLineEnd_le _).trans (List.length_take_le _ _)
  rw [cut, cutAtLine_eq_take, fittingLength_eq, ← keptLength, List.take_take, Nat.min_eq_left hle]

/-- A text whose tokens are within the limit is returned as it is, and only then is nothing reported. Of any other text
the longest prefix within the limit is kept, up to its last line feed unless that is its first character, and the notice
follows. So a text comes out as it was exactly if it is within the limit, or if it already is what the cut leaves. -/
theorem limited_keeps_lines (content model : String) (limit : Int) :
    let e := standardEncoding model
    let cs := content.toList
    let left := String.ofList (cs.take (keptLength e cs limit)) ++ cutNotice
    (∀ text, ∃ c, ({} : Counter).count model text = .ok (e.count text, c)) ∧
    (limited content limit model).1 = (if (e.count cs : Int) ≤ limit then content else left) ∧
    (limited content limit model = (content, []) ↔ (e.count cs : Int) ≤ limit) ∧
    ((limited content limit model).1 = content ↔ (e.count cs : Int) ≤ limit ∨ left = content) := by
  intro e cs left
  have hcount (text : List Char) : ∃ c, ({} : Counter).count model text = .ok (e.count text, c) := by
    obtain ⟨c, hc, -⟩ := Counter.count_of_encoding (encodingOf?_default model).1 text
    exact ⟨c, hc⟩
  refine ⟨hcount, ?_⟩
  by_cases hfits : (e.count cs : Int) ≤ limit
  · rw [limited_of_fits hfits, if_pos hfits]
    exact ⟨rfl, iff_of_true rfl hfits, iff_of_true rfl (.inl hfits)⟩
  · obtain ⟨hresult, hreport⟩ := limited_of_exceeds hfits
    have hleft : (limited content limit model).1 = left := by
      rw [hresult, cut_eq, String.ofList_append, String.ofList_toList]
    rw [hleft, if_neg hfits]
    refine ⟨rfl, iff_of_false (fun heq => hreport (congrArg Prod.snd heq)) hfits, ?_⟩
    rw [or_iff_right hfits]

/-- A text that looks as if it had been cut before. -/
def noticedText : String := "aaaaaa" ++ cutNotice

theorem noticedText_comes_back :
    (standardEncoding "gpt-4o").count noticedText.toList = 12 ∧ (limited noticedText 2 "gpt-4o").1 = noticedText ∧
      ¬ ((limited noticedText 2 "gpt-4o").1 = noticedText ↔
        ((standardEncoding "gpt-4o").count noticedText.toList : Int) ≤ 2) := by
  have hcount : (standardEncoding "gpt-4o").count noticedText.toList = 12 := by decide +kernel
  have hexceeds : ¬ ((standardEncoding "gpt-4o").count noticedText.toList : Int) ≤ 2 := by
    rw [hcount]
    decide
  have hcut : cut (standardEncoding "gpt-4o") noticedText.toList 2 = noticedText.toList := by decide +kernel
  have hresult : (limited noticedText 2 "gpt-4o").1 = noticedText := by
    rw [(limited_of_exceeds hexceeds).1, hcut, String.ofList_toList]
  exact ⟨hcount, hresult, fun h => hexceeds (h.1 hresult)⟩

end IssuePlanner.Tokens
