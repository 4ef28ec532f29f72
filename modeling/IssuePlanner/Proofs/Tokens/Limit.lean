import IssuePlanner.Proofs.Chunk.Cut
import IssuePlanner.Proofs.Tokens.Counter

/-! When a text that is cut to a number of tokens has no more than that. The longest prefix that fits leaves no room for
the notice; only what is cut back to the end of a line makes some. So the result fits exactly if that weighs as much as
the notice (`limited_within_iff`), which it never does in a text of one line. -/

namespace IssuePlanner.Text

theorem findAt_singleton_some {c : Char} {cs : List Char} {k n : Nat} (h : findAt [c] k cs = some n) :
    ∃ as bs, cs = as ++ c :: bs ∧ c ∉ as ∧ n = k + as.length := by
  induction cs generalizing k with
  | nil => cases h
  | cons d cs ih =>
    rw [findAt] at h
    split_ifs at h with hd
    · cases h
      have hcd : c = d := by simpa using hd
      exact ⟨[], cs, by rw [hcd]; rfl, by simp, rfl⟩
    · obtain ⟨as, bs, rfl, hmem, rfl⟩ := ih h
      have hcd : c ≠ d := by simpa using hd
      exact ⟨d :: as, bs, rfl, by simp [hcd, hmem], by rw [List.length_cons]; omega⟩

theorem findLast_singleton_some {c : Char} {cs : List Char} {n : Nat} (h : findLast cs [c] = some n) :
    ∃ as bs, cs = as ++ c :: bs ∧ c ∉ bs ∧ n = as.length := by
  obtain ⟨k, hk, rfl⟩ := Option.map_eq_some_iff.1 h
  obtain ⟨as, bs, hrev, hmem, rfl⟩ := findAt_singleton_some hk
  have hcs : cs = bs.reverse ++ c :: as.reverse := by
    rw [← List.reverse_reverse cs, hrev]
    simp
  refine ⟨bs.reverse, as.reverse, hcs, by simpa using hmem, ?_⟩
  rw [hcs]
  simp only [List.length_append, List.length_cons, List.length_reverse, List.length_nil]
  omega

end IssuePlanner.Text

namespace IssuePlanner.Tokens

/-! ### Weights -/

namespace Encoding

/-- What fills tokens: characters or bytes, several to a token, or the tokens themselves where they depend on words. -/
def weight (e : Encoding) (cs : List Char) : Nat :=
  match e with
  | cl100k => cs.length
  | o200k => wordTokens 0 cs
  | p50k => (cs.map Char.utf8Size).sum
  | r50k => cs.length

def perToken : Encoding → Nat
  | cl100k => 4
  | o200k => 1
  | p50k => 3
  | r50k => 1

theorem ceilDiv_le_iff {n d k : Nat} (hd : 0 < d) : ceilDiv n d ≤ k ↔ n ≤ d * k := by
  rw [ceilDiv, Nat.div_le_iff_le_mul_add_pred hd]
  omega

theorem count_le_iff (e : Encoding) (cs : List Char) (n : Nat) : e.count cs ≤ n ↔ e.weight cs ≤ e.perToken * n := by
  cases e with
  | cl100k => exact ceilDiv_le_iff (by decide)
  | o200k => rw [count_o200k, perToken, Nat.one_mul]; rfl
  | p50k => rw [count_p50k]; exact ceilDiv_le_iff (by decide)
  | r50k => rw [perToken, Nat.one_mul]; rfl

@[simp] theorem weight_nil (e : Encoding) : e.weight [] = 0 := by
  cases e <;> rfl

theorem wordTokens_append_newline (k : Nat) (as bs : List Char) :
    wordTokens k (as ++ '\n' :: bs) = wordTokens k as + wordTokens 0 ('\n' :: bs) := by
  have hfeed (j : Nat) : wordTokens j ('\n' :: bs) = ceilDiv j 6 + 1 + wordTokens 0 bs := rfl
  have hzero : ceilDiv 0 6 = 0 := rfl
  induction as generalizing k with
  | nil =>
    rw [List.nil_append, hfeed, hfeed, hzero, wordTokens]
    omega
  | cons c as ih =>
    rw [List.cons_append, wordTokens, wordTokens]
    split_ifs
    · rw [ih]; omega
    · rw [ih]; omega
    · exact ih (k + 1)

/-- Before a line feed a text may be divided: its parts weigh together what it weighs. -/
theorem weight_append_newline (e : Encoding) (as bs : List Char) :
    e.weight (as ++ '\n' :: bs) = e.weight as + e.weight ('\n' :: bs) := by
  cases e with
  | cl100k => exact List.length_append
  | o200k => exact wordTokens_append_newline 0 as bs
  | p50k => simp [weight]
  | r50k => exact List.length_append

/-- One more character weighs at most one, unless bytes are weighed. -/
theorem weight_concat_le {e : Encoding} (he : e ≠ p50k) (cs : List Char) (c : Char) :
    e.weight (cs ++ [c]) ≤ e.weight cs + 1 := by
  cases e with
  | cl100k => simp [weight]
  | o200k =>
    have hone : wordTokens 0 [c] ≤ 1 := by
      simp only [wordTokens]
      split_ifs <;> decide
    exact (wordTokens_append_le 0 cs [c]).trans (Nat.add_le_add_left hone _)
  | p50k => exact absurd rfl he
  | r50k => simp [weight]

end Encoding

/-! ### The encoding of a model -/

theorem lookUp?_mem {α : Type} {model : String} {table : List (String × α)} {a : α}
    (h : lookUp? model table = some a) : a ∈ table.map (·.2) := by
  have hget {key : String} (hkey : Entries.get? key table = some a) : a ∈ table.map (·.2) := by
    obtain ⟨p, hp, rfl⟩ := Option.map_eq_some_iff.1 hkey
    exact List.mem_map_of_mem (List.mem_of_find?_eq_some hp)
  unfold lookUp? at h
  split at h
  · cases h
  · exact hget h
  · cases h

theorem named_name (e : Encoding) : Counter.named (some e.name) = .ok e := by
  cases e <;> rfl

theorem encodingName_default (model : String) :
    ∃ e : Encoding, e ≠ .p50k ∧ ({} : Counter).encodingName model = some e.name := by
  have hconfigured : Counter.usable ((lookUp? model ({} : Counter).config.encodings).getD none) = none := rfl
  have htable : Entries.putAll standardEncodings ({} : Counter).config.encodings = standardEncodings := rfl
  simp only [Counter.encodingName, hconfigured, htable]
  cases hfound : lookUp? model standardEncodings with
  | none => exact ⟨.cl100k, by decide, rfl⟩
  | some name =>
    have hmem : name = some "o200k_base" ∨ name = some "cl100k_base" := by
      have hvalues : ∀ v ∈ standardEncodings.map (·.2), v = some "o200k_base" ∨ v = some "cl100k_base" := by decide
      exact hvalues name (lookUp?_mem hfound)
    rcases hmem with rfl | rfl
    · exact ⟨.o200k, by decide, rfl⟩
    · exact ⟨.cl100k, by decide, rfl⟩

/-- With nothing configured, every model has an encoding, and it does not weigh bytes. -/
theorem encodingOf?_default (model : String) :
    ({} : Counter).encodingOf? model = some (standardEncoding model) ∧ standardEncoding model ≠ .p50k := by
  obtain ⟨e, he, hname⟩ := encodingName_default model
  have hresolve : Library.standard.resolve {} (some e.name) = .ok e := by
    rw [Library.resolve, show Library.standard.named (some e.name) = .ok e from named_name e]
  have hencoding : ({} : Counter).encoding model = .ok (e, { cache := [(some e.name, e)] }) := by
    have hempty : ({} : Counter).encoding model = (Library.standard.resolve {} (({} : Counter).encodingName model)).bind
        fun e => .ok (e, { cache := [(({} : Counter).encodingName model, e)] }) := rfl
    rw [hempty, hname, hresolve]
    rfl
  have hstandard : standardEncoding model = e := by
    unfold standardEncoding
    rw [hencoding]
  rw [hstandard]
  exact ⟨Counter.encodingOf?_of_ok hencoding, he⟩

/-! ### The longest prefix that fits -/

variable {e : Encoding} {cs : List Char} {limit : Int}

def fittingPrefix (e : Encoding) (cs : List Char) (limit : Int) : List Char := cs.take (fittingLength e cs limit)

/-- The longest prefix of a text that does not fit as a whole fills the limit. -/
theorem weight_fittingPrefix (he : e ≠ .p50k) {n : Nat} (h : n < e.count cs) :
    e.weight (fittingPrefix e cs n) = e.perToken * n := by
  obtain ⟨hle, hfit, hmax⟩ := lastAccepted_fits e (Int.natCast_nonneg n) cs (k := fittingLength e cs n) rfl
  rw [fittingPrefix]
  generalize fittingLength e cs n = k at hle hfit hmax
  have hlt : k < cs.length := by
    refine lt_of_le_of_ne hle fun heq => ?_
    rw [heq, List.take_length] at hfit
    omega
  have hnext : ¬ e.count (cs.take (k + 1)) ≤ n := fun hc => by
    have := hmax (k + 1) hlt (by exact_mod_cast hc)
    omega
  have hone := Encoding.weight_concat_le he (cs.take k) cs[k]
  rw [Encoding.count_le_iff] at hnext
  rw [List.take_append_getElem hlt] at hone
  have hupper := (e.count_le_iff (cs.take k) n).1 (by exact_mod_cast hfit)
  omega

/-! ### Cutting back to the end of a line -/

/-- What is cut off a text that is cut back to the end of a line. -/
def cutBack (cs : List Char) : List Char := cs.drop (cutAtLine cs).length

theorem cutAtLine_cases (cs : List Char) :
    cutAtLine cs = cs ∧ cutBack cs = [] ∨ ∃ rest, cutBack cs = '\n' :: rest ∧ cs = cutAtLine cs ++ '\n' :: rest := by
  have hwhole (h : cutAtLine cs = cs) : cutAtLine cs = cs ∧ cutBack cs = [] := ⟨h, by rw [cutBack, h, List.drop_length]⟩
  cases hn : Text.findLast cs ['\n'] with
  | none => exact .inl (hwhole (by rw [cutAtLine, hn]))
  | some n =>
    by_cases hpos : 0 < n
    · obtain ⟨kept, rest, hcs, -, rfl⟩ := Text.findLast_singleton_some hn
      have hcut : cutAtLine cs = kept := by
        rw [cutAtLine, hn]
        simp only [if_pos hpos]
        rw [hcs, List.take_left]
      refine .inr ⟨rest, ?_, by rw [hcut]; exact hcs⟩
      rw [cutBack, hcut, hcs, List.drop_left]
    · exact .inl (hwhole (by rw [cutAtLine, hn]; exact if_neg hpos))

theorem cutAtLine_append_cutBack (cs : List Char) : cutAtLine cs ++ cutBack cs = cs := by
  rcases cutAtLine_cases cs with ⟨hcut, hback⟩ | ⟨rest, hback, hcs⟩
  · rw [hback, hcut, List.append_nil]
  · rw [hback, ← hcs]

theorem weight_cutAtLine (e : Encoding) (cs : List Char) :
    e.weight (cutAtLine cs) + e.weight (cutBack cs) = e.weight cs := by
  rcases cutAtLine_cases cs with ⟨hcut, hback⟩ | ⟨rest, hback, hcs⟩
  · rw [hcut, hback, Encoding.weight_nil, Nat.add_zero]
  · rw [hback, ← Encoding.weight_append_newline, ← hcs]

theorem cutBack_of_one_line (h : '\n' ∉ cs) : cutBack cs = [] := by
  rcases cutAtLine_cases cs with ⟨-, hback⟩ | ⟨rest, -, hcs⟩
  · exact hback
  · rw [hcs] at h
    simp at h

/-! ### The cut text -/

theorem weight_cut (e : Encoding) (cs : List Char) (limit : Int) :
    e.weight (cut e cs limit) = e.weight (cutAtLine (fittingPrefix e cs limit)) + e.weight cutNotice.toList := by
  have hnotice : cutNotice.toList = '\n' :: cutNotice.toList.tail := by decide
  rw [cut, hnotice]
  exact e.weight_append_newline _ _

/-- A cut text fits exactly if at least the weight of the notice was cut back. -/
theorem count_cut_le_iff (he : e ≠ .p50k) {n : Nat} (h : n < e.count cs) :
    e.count (cut e cs n) ≤ n ↔ e.weight cutNotice.toList ≤ e.weight (cutBack (fittingPrefix e cs n)) := by
  have hfull := weight_fittingPrefix he h
  have hparts := weight_cutAtLine e (fittingPrefix e cs n)
  rw [Encoding.count_le_iff, weight_cut]
  omega

theorem count_cut_le_add (e : Encoding) (hlimit : 0 ≤ limit) (cs : List Char) :
    (e.count (cut e cs limit) : Int) ≤ limit + e.count cutNotice.toList := by
  obtain ⟨-, hfit, -⟩ := lastAccepted_fits e hlimit cs (k := fittingLength e cs limit) rfl
  have hkept : cutAtLine (fittingPrefix e cs limit) <+: fittingPrefix e cs limit := ⟨_, cutAtLine_append_cutBack _⟩
  have hle := e.count_le_of_isInfix hkept.isInfix
  have happend := e.count_append_le (cutAtLine (fittingPrefix e cs limit)) cutNotice.toList
  rw [fittingPrefix] at hle happend
  rw [cut]
  omega

theorem limited_of_fits {content model : String} (h : ((standardEncoding model).count content.toList : Int) ≤ limit) :
    limited content limit model = (content, []) := if_pos h

theorem limited_of_exceeds {content model : String}
    (h : ¬ ((standardEncoding model).count content.toList : Int) ≤ limit) :
    (limited content limit model).1 = String.ofList (cut (standardEncoding model) content.toList limit) ∧
      (limited content limit model).2 ≠ [] := by
  rw [limited, if_neg h]
  exact ⟨rfl, List.cons_ne_nil _ _⟩

/-- A limited text is within the limit exactly if it was before, or if what is cut back to the end of a line weighs as
much as the notice. It never exceeds the limit by more than the notice, and limiting it again leaves it alone exactly if
it is within the limit. -/
theorem limited_within_iff (content model : String) (hlimit : 0 ≤ limit) :
    let e := standardEncoding model
    let result := (limited content limit model).1
    (({} : Counter).Within model limit result ↔ ({} : Counter).Within model limit content ∨
      e.weight cutNotice.toList ≤ e.weight (cutBack (fittingPrefix e content.toList limit))) ∧
    ({} : Counter).Within model (limit + e.count cutNotice.toList) result ∧
    (limited result limit model = (result, []) ↔ ({} : Counter).Within model limit result) := by
  intro e result
  obtain ⟨hof, he⟩ := encodingOf?_default model
  simp only [Counter.within_iff hof]
  refine ⟨?_, ?_, ?_⟩
  · by_cases hfits : (e.count content.toList : Int) ≤ limit
    · have hresult : result = content := congrArg Prod.fst (limited_of_fits hfits)
      rw [hresult]
      exact ⟨.inl, fun _ => hfits⟩
    · have hresult : result.toList = cut e content.toList limit := by
        rw [show result = _ from (limited_of_exceeds hfits).1, String.toList_ofList]
      obtain ⟨n, rfl⟩ := Int.eq_ofNat_of_zero_le hlimit
      have hcut := count_cut_le_iff he (by exact_mod_cast not_le.1 hfits)
      rw [hresult, or_iff_right hfits, Nat.cast_le]
      exact hcut
  · by_cases hfits : (e.count content.toList : Int) ≤ limit
    · rw [show result = content from congrArg Prod.fst (limited_of_fits hfits)]
      exact hfits.trans (by omega)
    · rw [show result = _ from (limited_of_exceeds hfits).1, String.toList_ofList]
      exact count_cut_le_add e hlimit content.toList
  · refine ⟨fun heq => ?_, limited_of_fits⟩
    by_contra hexceeds
    exact (limited_of_exceeds hexceeds).2 (congrArg Prod.snd heq)

/-- The notice alone would fit, but a text of one line is cut to exactly what fits without it. -/
theorem notice_exceeds_limit :
    ((standardEncoding "gpt-4o").count cutNotice.toList : Int) ≤ 11 ∧
      ¬ ({} : Counter).Within "gpt-4o" 11 (limited (String.ofList (List.replicate 80 'a')) 11 "gpt-4o").1 := by
  have hstandard : standardEncoding "gpt-4o" = .o200k := by decide +kernel
  obtain ⟨hof, -⟩ := encodingOf?_default "gpt-4o"
  refine ⟨by rw [hstandard]; decide +kernel, fun hwithin => ?_⟩
  have hcases := (limited_within_iff (String.ofList (List.replicate 80 'a')) "gpt-4o" (by decide)).1.1 hwithin
  rw [Counter.within_iff hof, hstandard, String.toList_ofList] at hcases
  have hline : '\n' ∉ fittingPrefix .o200k (List.replicate 80 'a') 11 := fun hmem => by
    have := List.mem_replicate.1 (List.mem_of_mem_take hmem)
    exact absurd this.2 (by decide)
  rw [cutBack_of_one_line hline] at hcases
  revert hcases
  decide +kernel

end IssuePlanner.Tokens
