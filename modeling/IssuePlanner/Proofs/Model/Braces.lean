import IssuePlanner.Model.Reply
import Mathlib.Tactic.Common

/-! Braces in a text. The search stops at the first braces that hold at most one level of further braces
(`Leftmost`), and it takes every brace for one, also those inside quotation marks. -/

namespace IssuePlanner.Model.Reply

variable {n : Nat} {cs inner part part' rest tail tail' : List Char}

def Braceless (xs : List Char) : Prop := ∀ ch ∈ xs, ch ≠ '\x7b' ∧ ch ≠ '\x7d'

/-- A text with pairs of braces that hold no further ones. -/
inductive Shallow : List Char → Prop
  | braceless {xs : List Char} (h : Braceless xs) : Shallow xs
  | pair {xs ys zs : List Char} (hx : Braceless xs) (hy : Braceless ys) (hz : Shallow zs) :
    Shallow (xs ++ '\x7b' :: (ys ++ '\x7d' :: zs))

/-- A pair of braces with at most one level of braces inside. -/
def Braced (part : List Char) : Prop := ∃ inner, Shallow inner ∧ part = '\x7b' :: (inner ++ ['\x7d'])

theorem dropWhile_braceless {xs : List Char} (h : Braceless xs) {ch : Char} (hch : ch = '\x7b' ∨ ch = '\x7d')
    (rest : List Char) : (xs ++ ch :: rest).dropWhile (fun c => c ≠ '\x7b' && c ≠ '\x7d') = ch :: rest := by
  rw [List.dropWhile_append_of_pos fun a ha => by simpa using h a ha, List.dropWhile_cons_of_neg]
  rcases hch with rfl | rfl <;> decide

theorem exists_of_dropWhile (cs : List Char) :
    ∃ xs, Braceless xs ∧ cs = xs ++ cs.dropWhile (fun c => c ≠ '\x7b' && c ≠ '\x7d') := by
  refine ⟨cs.takeWhile (fun c => c ≠ '\x7b' && c ≠ '\x7d'), fun ch hch => ?_, List.takeWhile_append_dropWhile.symm⟩
  simpa using List.all_eq_true.1 List.all_takeWhile ch hch

theorem innerBraces?_eq_some_iff :
    innerBraces? cs = some rest ↔ ∃ xs, Braceless xs ∧ cs = '\x7b' :: (xs ++ '\x7d' :: rest) := by
  constructor
  · intro h
    unfold innerBraces? at h
    split at h
    · rename_i r
      obtain ⟨xs, hxs, hr⟩ := exists_of_dropWhile r
      split at h
      · rename_i rest' hdrop
        obtain rfl := Option.some.inj h
        exact ⟨xs, hxs, by rw [← hdrop, ← hr]⟩
      · cases h
    · cases h
  · rintro ⟨xs, hxs, rfl⟩
    simp only [innerBraces?, dropWhile_braceless hxs (.inr rfl)]

theorem closing?_of_shallow (h : Shallow inner) (hn : inner.length < n) (rest : List Char) :
    closing? n (inner ++ '\x7d' :: rest) = some rest := by
  induction h generalizing n with
  | braceless h =>
    obtain ⟨n, rfl⟩ := Nat.exists_eq_add_of_lt hn
    simp only [closing?, dropWhile_braceless h (.inr rfl)]
  | @pair xs ys zs hx hy hz ih =>
    obtain ⟨n, rfl⟩ := Nat.exists_eq_add_of_lt hn
    have hinner : innerBraces? ('\x7b' :: (ys ++ '\x7d' :: (zs ++ '\x7d' :: rest))) = some (zs ++ '\x7d' :: rest) :=
      innerBraces?_eq_some_iff.2 ⟨ys, hy, rfl⟩
    simp only [List.append_assoc, List.cons_append, closing?, dropWhile_braceless hx (.inl rfl), hinner,
      Option.bind_some]
    apply ih
    simp only [List.length_append, List.length_cons]
    omega

theorem exists_of_closing? (h : closing? n cs = some rest) : ∃ inner, Shallow inner ∧ cs = inner ++ '\x7d' :: rest := by
  induction n generalizing cs with
  | zero => cases h
  | succ n ih =>
    rw [closing?] at h
    obtain ⟨xs, hxs, hcs⟩ := exists_of_dropWhile cs
    split at h
    · rename_i rest' hdrop
      obtain rfl := Option.some.inj h
      exact ⟨xs, .braceless hxs, by rw [← hdrop, ← hcs]⟩
    · rename_i r hdrop
      obtain ⟨r', hinner, hr'⟩ := Option.bind_eq_some_iff.1 h
      obtain ⟨ys, hys, hr⟩ := innerBraces?_eq_some_iff.1 hinner
      obtain ⟨zs, hzs, rfl⟩ := ih hr'
      exact ⟨_, .pair hxs hys hzs, by rw [hcs, hdrop, hr]; simp⟩
    · cases h

/-- The braces that open a text, if they hold at most one level of further ones, are found by where they close. -/
theorem Braced.eq_of_append (h : Braced part) (h' : Braced part') (ht : part ++ tail = part' ++ tail') : part = part' := by
  obtain ⟨inner, hinner, rfl⟩ := h
  obtain ⟨inner', hinner', rfl⟩ := h'
  have hcs : inner ++ '\x7d' :: tail = inner' ++ '\x7d' :: tail' := by simpa using ht
  have hclose := closing?_of_shallow (n := inner.length + inner'.length + 1) hinner (by omega) tail
  have hclose' := closing?_of_shallow (n := inner.length + inner'.length + 1) hinner' (by omega) tail'
  rw [hcs, hclose'] at hclose
  obtain rfl := Option.some.inj hclose
  rw [List.append_cancel_right hcs]

/-- A part of a text is its first pair of braces with at most one level of braces inside. -/
def Leftmost (cs part : List Char) : Prop :=
  Braced part ∧ ∃ before after, cs = before ++ (part ++ after) ∧
    ∀ before' part' after', cs = before' ++ (part' ++ after') → Braced part' → before.length ≤ before'.length

theorem Leftmost.unique (h : Leftmost cs part) (h' : Leftmost cs part') : part = part' := by
  obtain ⟨hbraced, before, after, hcs, hleast⟩ := h
  obtain ⟨hbraced', before', after', hcs', hleast'⟩ := h'
  have hlen : before.length = before'.length :=
    Nat.le_antisymm (hleast _ _ _ hcs' hbraced') (hleast' _ _ _ hcs hbraced)
  exact hbraced.eq_of_append hbraced' (List.append_inj (hcs.symm.trans hcs') hlen).2

theorem firstBraces?_append (h : Braced part) (after : List Char) : firstBraces? (part ++ after) = some part := by
  obtain ⟨inner, hinner, rfl⟩ := h
  have hclose : closing? ((inner ++ '\x7d' :: after).length + 1) (inner ++ '\x7d' :: after) = some after :=
    closing?_of_shallow hinner (by rw [List.length_append]; omega) after
  have htake : (inner ++ '\x7d' :: after).length + 1 - after.length = ('\x7b' :: (inner ++ ['\x7d'])).length := by
    simp only [List.length_append, List.length_cons, List.length_nil]
    omega
  rw [List.cons_append, List.append_assoc, List.singleton_append, firstBraces?, if_pos rfl, hclose]
  simp only [htake]
  rw [show '\x7b' :: (inner ++ '\x7d' :: after) = '\x7b' :: (inner ++ ['\x7d']) ++ after by simp, List.take_left]

theorem firstBraces?_cons {ch : Char} (h : ∀ part after, ch :: cs = part ++ after → ¬Braced part) :
    firstBraces? (ch :: cs) = firstBraces? cs := by
  rw [firstBraces?]
  split
  · rename_i hch
    subst hch
    split
    · rename_i rest hclose
      obtain ⟨inner, hinner, rfl⟩ := exists_of_closing? hclose
      exact absurd ⟨inner, hinner, rfl⟩ (h _ rest (by simp))
    · rfl
  · rfl

theorem leftmost_of_firstBraces? (h : firstBraces? cs = some part) : Leftmost cs part := by
  induction cs with
  | nil => cases h
  | cons ch cs ih =>
    by_cases hfront : ∃ part after, ch :: cs = part ++ after ∧ Braced part
    · obtain ⟨part', after, hcs, hbraced⟩ := hfront
      rw [hcs, firstBraces?_append hbraced] at h
      obtain rfl := Option.some.inj h
      exact ⟨hbraced, [], after, hcs, fun _ _ _ _ _ => Nat.zero_le _⟩
    · have hfront' : ∀ part after, ch :: cs = part ++ after → ¬Braced part := fun part after hcs hbraced =>
        hfront ⟨part, after, hcs, hbraced⟩
      rw [firstBraces?_cons hfront'] at h
      obtain ⟨hbraced, before, after, rfl, hleast⟩ := ih h
      refine ⟨hbraced, ch :: before, after, rfl, fun before' part' after' hcs' hbraced' => ?_⟩
      cases before' with
      | nil => exact absurd hbraced' (hfront' part' after' hcs')
      | cons b before' => exact Nat.succ_le_succ (hleast before' part' after' (List.cons.inj hcs').2 hbraced')

theorem exists_firstBraces? (h : Braced part) (before after : List Char) :
    ∃ first, firstBraces? (before ++ (part ++ after)) = some first := by
  induction before with
  | nil => exact ⟨part, firstBraces?_append h after⟩
  | cons ch before ih =>
    rw [List.cons_append]
    by_cases hfront : ∃ part' after', ch :: (before ++ (part ++ after)) = part' ++ after' ∧ Braced part'
    · obtain ⟨part', after', hcs, hbraced⟩ := hfront
      exact ⟨part', by rw [hcs, firstBraces?_append hbraced]⟩
    · rw [firstBraces?_cons fun part' after' hcs hbraced => hfront ⟨part', after', hcs, hbraced⟩]
      exact ih

/-- Where a brace opens and one closes later on, there is a pair with no brace inside. -/
theorem exists_braced {xs : List Char} (hxs : Braceless xs) (ys zs : List Char) :
    ∃ before part after, '\x7b' :: (xs ++ (ys ++ '\x7d' :: zs)) = before ++ (part ++ after) ∧ Braced part := by
  induction ys generalizing xs with
  | nil => exact ⟨[], _, zs, by simp, xs, .braceless hxs, rfl⟩
  | cons ch ys ih =>
    by_cases hclose : ch = '\x7d'
    · subst hclose
      exact ⟨[], _, ys ++ '\x7d' :: zs, by simp, xs, .braceless hxs, rfl⟩
    by_cases hopen : ch = '\x7b'
    · subst hopen
      have hnil : Braceless [] := fun _ h => (nomatch h)
      obtain ⟨before, part, after, hcs, hbraced⟩ := ih hnil
      exact ⟨'\x7b' :: (xs ++ before), part, after, by simpa using hcs, hbraced⟩
    · have hsnoc : Braceless (xs ++ [ch]) := by
        intro a ha
        rcases List.mem_append.1 ha with ha | ha
        · exact hxs a ha
        · exact List.mem_singleton.1 ha ▸ ⟨hopen, hclose⟩
      obtain ⟨before, part, after, hcs, hbraced⟩ := ih hsnoc
      exact ⟨before, part, after, by simpa using hcs, hbraced⟩

end IssuePlanner.Model.Reply
