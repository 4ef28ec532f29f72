import IssuePlanner.Data.Reader
import Mathlib.Tactic.Common

/-! Reading strings, numbers and words. How far one goes is decided by what stands there: a string ends at its quotation
mark, whatever follows (`exists_of_string`), and a number where something stands that cannot go on it
(`exists_of_number`). -/

namespace IssuePlanner.Data.Reader

/-- The character that a string's text starts with, and how many characters after the first it takes. -/
inductive Spells : List Char → Char → Nat → Prop
  | plain {a : Char} {r : List Char} (hquote : a ≠ '"') (hslash : a ≠ '\\') (hcontrol : ¬a.toNat < 0x20) :
    Spells (a :: r) a 0
  | escape {a ch : Char} {r : List Char} (hu : a ≠ 'u') (hch : simpleEscape? a = some ch) :
    Spells ('\\' :: a :: r) ch 1
  | numbered {place n : Nat} {ch : Char} {r : List Char} (hnum : numbered place r = .ok (ch, n)) :
    Spells ('\\' :: 'u' :: r) ch (n + 1)

variable {start skip place n : Nat} {a ch : Char} {out cs r x tail : List Char} {s : String} {d : Datum} {c : Cursor}

/-! ### Strings -/

theorem string_skip (start : Nat) (out : List Char) (place : Nat) (h : skip ≤ cs.length) :
    string start out skip place cs = string start out 0 (place + skip) (cs.drop skip) := by
  induction skip generalizing place cs with
  | zero => rfl
  | succ n ih =>
    cases cs with
    | nil => simp at h
    | cons a r =>
      have hstep : string start out (n + 1) place (a :: r) = string start out n (place + 1) r := by
        rw [string]
      rw [hstep, ih (place + 1) (by simpa using h), List.drop_succ_cons, Nat.add_right_comm, Nat.add_assoc]

theorem length_of_hexQuad? {m : Nat} (h : hexQuad? cs = some m) : 4 < cs.length := by
  rcases cs with _ | ⟨a, _ | ⟨b, _ | ⟨e, _ | ⟨f, _ | ⟨g, r⟩⟩⟩⟩⟩
  all_goals first | (simp [hexQuad?] at h; done) | simp

theorem hexQuad?_append (h : 4 < x.length) (tail tail' : List Char) :
    hexQuad? (x ++ tail) = hexQuad? (x ++ tail') := by
  rcases x with _ | ⟨a, _ | ⟨b, _ | ⟨e, _ | ⟨f, _ | ⟨g, r⟩⟩⟩⟩⟩
  all_goals first | rfl | exact absurd h (by simp)

theorem numbered_of_pair {m : Nat} {low : List Char} (hm : hexQuad? cs = some m) (hhigh : isHighSurrogate m = true)
    (hlow : cs.drop 4 = '\\' :: 'u' :: low) (hlen : 4 < low.length) :
    numbered place cs = .ok (ch, n) ↔
      (hexQuad? low).map (fun k => if isLowSurrogate k
        then (Char.ofNat (0x10000 + (m - 0xd800) * 1024 + (k - 0xdc00)), 10) else (charOf m, 4)) = some (ch, n) := by
  have hlong : (true && decide (6 < ('\\' :: 'u' :: low).length)) = true := by
    simp only [List.length_cons, Bool.true_and, decide_eq_true_eq]
    omega
  simp only [numbered, hm, hhigh, hlow, hlong]
  cases hexQuad? low with
  | none => simp
  | some k =>
    simp only [Option.map_some, Option.some.injEq]
    split <;> simp only [Except.ok.injEq]

theorem numbered_of_single {m : Nat} (place : Nat) (hm : hexQuad? cs = some m)
    (hsingle : isHighSurrogate m = true → ∀ low, cs.drop 4 = '\\' :: 'u' :: low → low.length ≤ 4) :
    numbered place cs = .ok (charOf m, 4) := by
  simp only [numbered, hm]
  split
  · rename_i low hpair hdrop
    rw [hdrop] at hpair
    simp only [Bool.and_eq_true, decide_eq_true_eq, List.length_cons] at hpair
    have := hsingle hpair.1 low hdrop
    omega
  · rfl

theorem numbered_uses (h : numbered place cs = .ok (ch, n)) : n = 4 ∨ n = 10 := by
  unfold numbered at h
  grind

/-- What a character written by its number takes does not depend on what follows the string, if the escape after it is
whole. -/
theorem numbered_append {t : List Char} (h : numbered place (x ++ t) = .ok (ch, n)) (hn : n < x.length)
    (hx : x.drop 4 ≠ ['\\']) (hlow : n = 4 → ∀ low, x.drop 4 = '\\' :: 'u' :: low → 4 < low.length)
    (place' : Nat) (tail : List Char) : numbered place' (x ++ tail) = .ok (ch, n) := by
  have hlen : 4 < x.length := by
    have := numbered_uses h
    omega
  obtain ⟨m, hm⟩ : ∃ m, hexQuad? (x ++ t) = some m := by
    cases hm : hexQuad? (x ++ t) with
    | none => simp [numbered, hm] at h
    | some m => exact ⟨m, rfl⟩
  have hm' : hexQuad? (x ++ tail) = some m := by rw [hexQuad?_append hlen tail t, hm]
  have hdrop : ∀ y : List Char, (x ++ y).drop 4 = x.drop 4 ++ y := fun y =>
    List.drop_append_of_le_length (Nat.le_of_lt hlen)
  by_cases hpair : isHighSurrogate m = true ∧ ∃ low, x.drop 4 = '\\' :: 'u' :: low
  · obtain ⟨hhigh, low, hlow'⟩ := hpair
    have hlong : 4 < low.length := by
      rcases numbered_uses h with rfl | rfl
      · exact hlow rfl low hlow'
      · have := congrArg List.length hlow'
        simp only [List.length_drop, List.length_cons] at this
        omega
    have hread : ∀ y : List Char, (x ++ y).drop 4 = '\\' :: 'u' :: (low ++ y) := fun y => by
      rw [hdrop, hlow', List.cons_append, List.cons_append]
    have hlong' : ∀ y : List Char, 4 < (low ++ y).length := fun y => by
      rw [List.length_append]
      omega
    rw [numbered_of_pair hm hhigh (hread t) (hlong' t)] at h
    rw [numbered_of_pair hm' hhigh (hread tail) (hlong' tail), hexQuad?_append hlong tail t, h]
  · -- What follows is no escape with a number, and stays none whatever the string is followed by.
    have hsingle : ∀ y : List Char, isHighSurrogate m = true → ∀ low, (x ++ y).drop 4 = '\\' :: 'u' :: low →
        low.length ≤ 4 := by
      intro y hhigh low hy
      rw [hdrop] at hy
      rcases hx' : x.drop 4 with _ | ⟨a, _ | ⟨b, z⟩⟩
      · have := congrArg List.length hx'
        simp only [List.length_drop, List.length_nil] at this
        omega
      · rw [hx', List.cons_append, List.cons.injEq] at hy
        exact absurd (hx'.trans (by rw [hy.1])) hx
      · rw [hx', List.cons_append, List.cons_append, List.cons.injEq, List.cons.injEq] at hy
        exact absurd ⟨hhigh, z, hx'.trans (by rw [hy.1, hy.2.1])⟩ hpair
    rw [numbered_of_single place hm (hsingle t)] at h
    rw [numbered_of_single place' hm' (hsingle tail), ← h]

theorem numbered_place (h : numbered place r = .ok (ch, n)) (place' : Nat) : numbered place' r = .ok (ch, n) := by
  cases hm : hexQuad? r with
  | none => simp [numbered, hm] at h
  | some m =>
    by_cases hpair : isHighSurrogate m = true ∧ ∃ low, r.drop 4 = '\\' :: 'u' :: low ∧ 4 < low.length
    · obtain ⟨hhigh, low, hlow, hlen⟩ := hpair
      rw [numbered_of_pair hm hhigh hlow hlen] at h ⊢
      exact h
    · have hsingle : isHighSurrogate m = true → ∀ low, r.drop 4 = '\\' :: 'u' :: low → low.length ≤ 4 :=
        fun hhigh low hlow => Nat.le_of_not_lt fun hlen => hpair ⟨hhigh, low, hlow, hlen⟩
      rw [numbered_of_single place hm hsingle] at h
      rw [numbered_of_single place' hm hsingle, h]

theorem string_of_spells (start : Nat) (out : List Char) (place : Nat) (h : Spells (a :: r) ch n) :
    string start out 0 place (a :: r) = string start (ch :: out) n (place + 1) r := by
  conv_lhs => unfold string
  cases h with
  | plain hquote hslash hcontrol => simp only [hquote, hslash, hcontrol, if_false]
  | escape hu hch => simp [hch]
  | numbered hnum => simp [numbered_place hnum (place + 1)]

theorem string_cases (h : string start out 0 place (a :: r) = .ok (s, c)) :
    (a = '"' ∧ s = String.ofList out.reverse ∧ c = ⟨place + 1, r⟩) ∨
      ∃ ch n, Spells (a :: r) ch n ∧ string start (ch :: out) n (place + 1) r = .ok (s, c) := by
  have hread := h
  unfold string at h
  by_cases hquote : a = '"'
  · left
    simp only [hquote, if_true, Except.ok.injEq, Prod.mk.injEq] at h
    exact ⟨hquote, h.1.symm, h.2.symm⟩
  · right
    suffices hw : ∃ ch n, Spells (a :: r) ch n by
      obtain ⟨ch, n, hw⟩ := hw
      exact ⟨ch, n, hw, string_of_spells start out place hw ▸ hread⟩
    simp only [hquote, if_false] at h
    split at h
    · rename_i hslash
      subst hslash
      split at h
      · cases h
      · split at h
        · rename_i hnum
          exact ⟨_, _, .numbered hnum⟩
        · cases h
      · rename_i hu
        split at h
        · rename_i hch
          exact ⟨_, _, .escape hu hch⟩
        · cases h
    · rename_i hslash
      split at h
      · cases h
      · rename_i hcontrol
        exact ⟨_, _, .plain hquote hslash hcontrol⟩

theorem length_of_spells {low : List Char} (h : Spells ('\\' :: 'u' :: low) ch n) : 4 < low.length := by
  cases h with
  | plain _ hslash _ => exact absurd rfl hslash
  | escape hu _ => exact absurd rfl hu
  | numbered hnum =>
    cases hm : hexQuad? low with
    | none => simp [numbered, hm] at hnum
    | some m => exact length_of_hexQuad? hm

theorem Spells.append {t : List Char} (h : Spells (a :: (x ++ t)) ch n) (hn : n < x.length)
    (hread : string start out n place x = .ok (s, c)) (tail : List Char) : Spells (a :: (x ++ tail)) ch n := by
  obtain ⟨b, x, rfl⟩ := List.exists_cons_of_length_pos (Nat.zero_lt_of_lt hn)
  rw [List.cons_append] at h ⊢
  cases h with
  | plain hquote hslash hcontrol => exact .plain hquote hslash hcontrol
  | escape hu hch => exact .escape hu hch
  | @numbered p n _ _ hnum =>
    -- The surrogate's partner is looked for in what the string still holds, and there it is whole.
    rw [string_skip start out place (Nat.le_of_lt hn), List.drop_succ_cons] at hread
    have hn' : n < x.length := by simpa using hn
    refine .numbered (numbered_append hnum hn' (fun hx => ?_) (fun hn low hlow => ?_) p tail)
    · have hlen := congrArg List.length hx
      simp only [List.length_drop, List.length_singleton] at hlen
      obtain rfl : n = 4 := by
        have := numbered_uses hnum
        omega
      rw [hx] at hread
      obtain ⟨hq, -⟩ | ⟨ch, k, hs, -⟩ := string_cases hread
      · exact absurd hq (by decide)
      · cases hs with
        | plain _ hslash _ => exact hslash rfl
    · rw [hn, hlow] at hread
      obtain ⟨hq, -⟩ | ⟨ch, k, hs, -⟩ := string_cases hread
      · exact absurd hq (by decide)
      · exact length_of_spells hs

/-- A string is read up to its quotation mark, and as the same string wherever that text stands. -/
theorem exists_of_string (h : string start out skip place cs = .ok (s, c)) :
    ∃ x, cs = x ++ c.rest ∧ skip < x.length ∧ s.length + 1 ≤ out.length + x.length ∧
      ∀ start' place' tail, string start' out skip place' (x ++ tail) = .ok (s, ⟨place' + x.length, tail⟩) := by
  induction cs generalizing out skip place with
  | nil => simp [string] at h
  | cons a r ih =>
    cases skip with
    | succ n =>
      obtain ⟨x, rfl, hn, hlen, hx⟩ := ih (by rwa [string] at h)
      refine ⟨a :: x, rfl, by simpa using hn, ?_, fun start' place' tail => ?_⟩
      · rw [List.length_cons]
        omega
      · rw [List.cons_append, string, hx, List.length_cons, Nat.add_right_comm, Nat.add_assoc]
    | zero =>
      rcases string_cases h with ⟨rfl, rfl, rfl⟩ | ⟨ch, n, hspells, hrest⟩
      · exact ⟨['"'], rfl, by simp, by simp, fun start' place' tail => by simp [string]⟩
      · obtain ⟨x, rfl, hn, hlen, hx⟩ := ih hrest
        refine ⟨a :: x, rfl, by simp, ?_, fun start' place' tail => ?_⟩
        · rw [List.length_cons] at hlen ⊢
          omega
        · have hspells' : Spells (a :: (x ++ tail)) ch n :=
            hspells.append hn (by simpa only [List.append_nil] using hx 0 0 []) tail
          rw [List.cons_append, string_of_spells start' out place' hspells', hx, List.length_cons, Nat.add_right_comm,
            Nat.add_assoc]

/-! ### Numbers -/

/-- Nothing stands here that can go on the digits before it. -/
def NoDigit (tail : List Char) : Prop := ∀ ch ∈ tail.head?, ch.isDigit = false

/-- Nothing stands here that can go on a number. -/
def Stops (tail : List Char) : Prop := ∀ ch ∈ tail.head?, ch.isDigit = false ∧ ch ≠ '.' ∧ ch ≠ 'e' ∧ ch ≠ 'E'

theorem Stops.noDigit (h : Stops tail) : NoDigit tail := fun ch hch => (h ch hch).1

theorem takeWhile_isDigit {ds : List Char} (hds : ∀ ch ∈ ds, ch.isDigit = true) (h : NoDigit tail) :
    (ds ++ tail).takeWhile Char.isDigit = ds := by
  rw [List.takeWhile_append_of_pos hds]
  cases tail with
  | nil => simp
  | cons a t => simp [h a rfl]

theorem noDigit_dropWhile (cs : List Char) : NoDigit (cs.dropWhile Char.isDigit) := fun ch hch => by
  have := List.head?_dropWhile_not Char.isDigit cs
  rw [Option.mem_def.1 hch] at this
  simpa using this

theorem isDigit_of_mem_takeWhile (hch : ch ∈ cs.takeWhile Char.isDigit) : ch.isDigit = true :=
  List.all_eq_true.1 List.all_takeWhile ch hch

theorem wholeDigits_spec {w : List Char} (h : wholeDigits cs = w) (hw : w ≠ []) :
    (∃ z, cs = w ++ z) ∧ (∀ ch ∈ w, ch.isDigit = true) ∧ ∀ tail, NoDigit tail → wholeDigits (w ++ tail) = w := by
  unfold wholeDigits at h
  split at h
  · subst h
    exact ⟨⟨_, rfl⟩, by simp, fun tail _ => rfl⟩
  · rename_i hzero
    have hdigits : ∀ ch ∈ w, ch.isDigit = true := fun ch hch => isDigit_of_mem_takeWhile (h ▸ hch)
    refine ⟨⟨cs.dropWhile Char.isDigit, by rw [← h, List.takeWhile_append_dropWhile]⟩, hdigits, fun tail ht => ?_⟩
    obtain ⟨a, w, rfl⟩ := List.exists_cons_of_ne_nil hw
    have ha : a ≠ '0' := by
      rintro rfl
      refine hzero (w ++ cs.dropWhile Char.isDigit) ?_
      rw [← List.cons_append, ← h, List.takeWhile_append_dropWhile]
    unfold wholeDigits
    split
    · rename_i hcons
      exact absurd (List.cons.inj hcons).1 ha
    · exact takeWhile_isDigit hdigits ht

def pointed : List Char → List Char
  | [] => []
  | f@(_ :: _) => '.' :: f

theorem fractionDigits_spec {f : List Char} (h : fractionDigits cs = f) :
    (∃ z, cs = pointed f ++ z) ∧
      ∀ tail, NoDigit tail → tail.head? ≠ some '.' → fractionDigits (pointed f ++ tail) = f := by
  cases f with
  | nil =>
    refine ⟨⟨cs, rfl⟩, fun tail _ hpoint => ?_⟩
    cases tail with
    | nil => rfl
    | cons a t =>
      unfold fractionDigits
      split
      · rename_i hcons
        exact absurd (congrArg List.head? hcons) hpoint
      · rfl
  | cons a f =>
    unfold fractionDigits at h
    split at h
    · rename_i r
      have hdigits : ∀ ch ∈ a :: f, ch.isDigit = true := fun ch hch => isDigit_of_mem_takeWhile (h ▸ hch)
      refine ⟨⟨r.dropWhile Char.isDigit, ?_⟩, fun tail ht _ => takeWhile_isDigit hdigits ht⟩
      change '.' :: r = '.' :: ((a :: f) ++ _)
      rw [← h, List.takeWhile_append_dropWhile]
    · cases h

theorem exponentPart_of_stops (h : Stops tail) : exponentPart tail = none := by
  cases tail with
  | nil => rfl
  | cons a t =>
    obtain ⟨-, -, he, hE⟩ := h a rfl
    simp [exponentPart, he, hE]

theorem exponentPart_of_digits {sg ds : List Char} (ha : a = 'e' ∨ a = 'E') (hsg : sg = [] ∨ sg = ['-'] ∨ sg = ['+'])
    (hne : ds ≠ []) (hds : ∀ ch ∈ ds, ch.isDigit = true) (ht : NoDigit tail) :
    exponentPart (a :: (sg ++ (ds ++ tail))) =
      some (if sg = ['-'] then -(natOf ds : Int) else natOf ds, 1 + sg.length + ds.length) := by
  have htake := takeWhile_isDigit hds ht
  have ha' : (decide (a = 'e') || decide (a = 'E')) = true := by simpa using ha
  rcases hsg with rfl | rfl | rfl
  · obtain ⟨b, ds, rfl⟩ := List.exists_cons_of_ne_nil hne
    have hb : b.isDigit = true := hds b List.mem_cons_self
    have hminus : b ≠ '-' := by
      rintro rfl
      exact absurd hb (by decide)
    have hplus : b ≠ '+' := by
      rintro rfl
      exact absurd hb (by decide)
    rw [List.nil_append] at *
    simp only [exponentPart, ha', if_true]
    split
    · exact absurd (List.cons.inj ‹_›).1 hminus
    · exact absurd (List.cons.inj ‹_›).1 hplus
    · simp only [htake, List.isEmpty_cons, Bool.false_eq_true, if_false]
      rfl
  · simp only [exponentPart, ha', if_true]
    simp [htake, hne]
  · simp only [exponentPart, ha', if_true]
    simp [htake, hne]

theorem exists_of_exponentPart {e : Int × Nat} (h : exponentPart cs = some e) :
    ∃ a sg ds z, cs = a :: (sg ++ (ds ++ z)) ∧ (a = 'e' ∨ a = 'E') ∧ (sg = [] ∨ sg = ['-'] ∨ sg = ['+']) ∧ ds ≠ [] ∧
      (∀ ch ∈ ds, ch.isDigit = true) ∧ NoDigit z := by
  cases cs with
  | nil => cases h
  | cons a r =>
    have ha : a = 'e' ∨ a = 'E' := by
      by_contra ha
      simp [exponentPart, not_or.1 ha] at h
    have ha' : (decide (a = 'e') || decide (a = 'E')) = true := by simpa using ha
    simp only [exponentPart, ha', if_true] at h
    have hdigits : ∀ r' : List Char, (r'.takeWhile Char.isDigit).isEmpty = false → ∃ ds z, r' = ds ++ z ∧ ds ≠ [] ∧
        (∀ ch ∈ ds, ch.isDigit = true) ∧ NoDigit z := fun r' hr => by
      refine ⟨_, _, List.takeWhile_append_dropWhile.symm, ?_, fun ch => isDigit_of_mem_takeWhile, noDigit_dropWhile r'⟩
      simpa using hr
    have hread : ∀ {b : Bool} {v : Int × Nat}, (if b = true then none else some v) = some e → b = false := by
      intro b v hb
      cases b with
      | true => cases hb
      | false => rfl
    split at h
    · rename_i r
      obtain ⟨ds, z, rfl, hds⟩ := hdigits r (hread h)
      exact ⟨a, ['-'], ds, z, rfl, ha, by simp, hds⟩
    · rename_i r
      obtain ⟨ds, z, rfl, hds⟩ := hdigits r (hread h)
      exact ⟨a, ['+'], ds, z, rfl, ha, by simp, hds⟩
    · obtain ⟨ds, z, rfl, hds⟩ := hdigits r (hread h)
      exact ⟨a, [], ds, z, rfl, ha, by simp, hds⟩

theorem exponentPart_spec {e : Int × Nat} (h : exponentPart cs = some e) :
    ∃ y z, cs = y ++ z ∧ y.length = e.2 ∧ (y.head? = some 'e' ∨ y.head? = some 'E') ∧
      ∀ tail, NoDigit tail → exponentPart (y ++ tail) = some e := by
  obtain ⟨a, sg, ds, z, rfl, ha, hsg, hne, hds, hz⟩ := exists_of_exponentPart h
  rw [exponentPart_of_digits ha hsg hne hds hz, Option.some.injEq] at h
  refine ⟨a :: (sg ++ ds), z, by simp, ?_, by simpa using ha, fun tail ht => ?_⟩
  · rw [← h, List.length_cons, List.length_append]
    omega
  · rw [List.cons_append, List.append_assoc, exponentPart_of_digits ha hsg hne hds ht, h]

/-- The number of a sign, the digits before and after the point and an exponent; a whole number with too many digits has
none. -/
def numberOf? (negative : Bool) (whole fraction : List Char) (e : Option (Int × Nat)) : Option Datum :=
  if e = none ∧ fraction = [] then
    if digitLimit < whole.length then none
    else some (.int (if negative then -(natOf whole : Int) else natOf whole))
  else
    some (.float (Number.ofDecimal negative (natOf (whole ++ fraction)) ((e.getD (0, 0)).1 - fraction.length)))

theorem number_eq_ok_iff {sign w f z : List Char} (hsign : sign = [] ∨ sign = ['-']) (hne : w ≠ [])
    (hdigits : ∀ ch ∈ w, ch.isDigit = true) (hw : wholeDigits (w ++ (pointed f ++ z)) = w)
    (hf : fractionDigits (pointed f ++ z) = f) (hcs : cs = sign ++ (w ++ (pointed f ++ z))) :
    number ⟨place, cs⟩ = .ok (d, c) ↔ numberOf? (!sign.isEmpty) w f (exponentPart z) = some d ∧
      c = (Cursor.mk place cs).advance
        (sign.length + w.length + (pointed f).length + ((exponentPart z).map Prod.snd).getD 0) := by
  have hneg : (cs.head? = some '-') = ((!sign.isEmpty) = true) := by
    rcases hsign with rfl | rfl
    · obtain ⟨a, w, rfl⟩ := List.exists_cons_of_ne_nil hne
      have ha : a ≠ '-' := by
        rintro rfl
        exact absurd (hdigits _ List.mem_cons_self) (by decide)
      simp [hcs, ha]
    · simp [hcs]
  have hbody : (if (!sign.isEmpty) = true then cs.drop 1 else cs) = w ++ (pointed f ++ z) := by
    rcases hsign with rfl | rfl <;> rw [hcs] <;> rfl
  have hempty : w.isEmpty = false := by simpa using hne
  have hrest : (if f.isEmpty = true then pointed f ++ z else (pointed f ++ z).drop (1 + f.length)) = z := by
    cases f with
    | nil => rfl
    | cons b f =>
      rw [if_neg (by simp), Nat.add_comm]
      change (('.' :: b :: f) ++ z).drop ('.' :: b :: f).length = z
      exact List.drop_left
  have hused : (if f.isEmpty = true then (if (!sign.isEmpty) = true then 1 else 0) + w.length
      else (if (!sign.isEmpty) = true then 1 else 0) + w.length + 1 + f.length) =
        sign.length + w.length + (pointed f).length := by
    have hone : (if (!sign.isEmpty) = true then 1 else 0) = sign.length := by
      rcases hsign with rfl | rfl <;> rfl
    rw [hone]
    cases f with
    | nil => rfl
    | cons b f =>
      simp only [pointed, List.isEmpty_cons, Bool.false_eq_true, if_false, List.length_cons]
      omega
  unfold number
  simp only [hneg, hbody, hw, hempty, List.drop_left, hf, Bool.false_eq_true, if_false, hrest, hused,
    Bool.decide_eq_true, numberOf?]
  cases exponentPart z with
  | some e => simp [eq_comm]
  | none =>
    cases f with
    | nil =>
      by_cases hmany : digitLimit < w.length
      · simp [hmany]
      · simp only [List.isEmpty_nil, hmany, if_false, and_self, if_true, Except.ok.injEq, Prod.mk.injEq, Option.some.injEq,
          Option.map_none, Option.getD_none, Nat.add_zero, eq_comm (a := c)]
    | cons b f => simp [eq_comm]

theorem numberOf?_eq_some {negative : Bool} {w f : List Char} {e : Option (Int × Nat)}
    (h : numberOf? negative w f e = some d) : (∃ n, d = .int n) ∨ ∃ x, d = .float x := by
  unfold numberOf? at h
  split at h
  · split at h
    · cases h
    · exact .inl ⟨_, (Option.some.inj h).symm⟩
  · exact .inr ⟨_, (Option.some.inj h).symm⟩

theorem exists_exponent (cs : List Char) : ∃ y z, cs = y ++ z ∧ y.length = ((exponentPart cs).map Prod.snd).getD 0 ∧
    ∀ tail, Stops tail →
      NoDigit (y ++ tail) ∧ (y ++ tail).head? ≠ some '.' ∧ exponentPart (y ++ tail) = exponentPart cs := by
  cases he : exponentPart cs with
  | none =>
    refine ⟨[], cs, rfl, rfl, fun tail ht => ⟨ht.noDigit, fun hpoint => ?_, exponentPart_of_stops ht⟩⟩
    exact (ht '.' hpoint).2.1 rfl
  | some e =>
    obtain ⟨y, z, rfl, hlen, hhead, hy⟩ := exponentPart_spec he
    refine ⟨y, z, rfl, hlen, fun tail ht => ?_⟩
    have hhead' : (y ++ tail).head? = some 'e' ∨ (y ++ tail).head? = some 'E' := by
      cases y with
      | nil => simp at hhead
      | cons a y => exact hhead
    refine ⟨fun ch hch => ?_, fun hpoint => ?_, hy tail ht.noDigit⟩
    · rcases hhead' with hhead | hhead <;> obtain rfl := Option.some.inj (hhead.symm.trans hch) <;> decide
    · rw [hpoint] at hhead'
      exact absurd hhead' (by decide)

/-- A number's text starts with a digit, which a sign may precede. -/
def Numeric (x : List Char) : Prop := ∃ sign a y, (sign = [] ∨ sign = ['-']) ∧ x = sign ++ a :: y ∧ a.isDigit = true

theorem noDigit_pointed (f : List Char) (h : NoDigit tail) : NoDigit (pointed f ++ tail) := by
  cases f with
  | nil => exact h
  | cons b f =>
    intro ch hch
    obtain rfl : '.' = ch := Option.some.inj hch
    decide

@[simp] theorem advance_append (place : Nat) (x tail : List Char) :
    (Cursor.mk place (x ++ tail)).advance x.length = ⟨place + x.length, tail⟩ := by
  rw [Cursor.advance, List.drop_left]

/-- A number is read as far as it goes, and as the same number wherever that text stands and is not gone on. -/
theorem exists_of_number (h : number ⟨place, cs⟩ = .ok (d, c)) :
    ∃ x, cs = x ++ c.rest ∧ Numeric x ∧ ((∃ n, d = .int n) ∨ ∃ x, d = .float x) ∧
      ∀ place' tail, Stops tail → number ⟨place', x ++ tail⟩ = .ok (d, ⟨place' + x.length, tail⟩) := by
  obtain ⟨sign, body, hsign, hcs, hwhole⟩ : ∃ sign body, (sign = [] ∨ sign = ['-']) ∧ cs = sign ++ body ∧
      wholeDigits body ≠ [] := by
    by_cases hneg : cs.head? = some '-'
    · obtain ⟨body, rfl⟩ := List.head?_eq_some_iff.1 hneg
      refine ⟨['-'], body, .inr rfl, rfl, fun hw => ?_⟩
      simp [number, hw] at h
    · refine ⟨[], cs, .inl rfl, rfl, fun hw => ?_⟩
      simp [number, hneg, hw] at h
  obtain ⟨⟨z, hz⟩, hdigits, hw⟩ := wholeDigits_spec rfl hwhole
  generalize hw' : wholeDigits body = w at *
  obtain ⟨⟨z', hz'⟩, hf⟩ := fractionDigits_spec (Eq.refl (fractionDigits z))
  generalize hf' : fractionDigits z = f at *
  obtain ⟨y, rest, hy, hlen, hexp⟩ := exists_exponent z'
  subst hz' hz
  obtain ⟨hd, hc⟩ := (number_eq_ok_iff hsign hwhole hdigits hw' hf' hcs).1 h
  have hx : sign.length + w.length + (pointed f).length + y.length = (sign ++ (w ++ (pointed f ++ y))).length := by
    simp only [List.length_append]
    omega
  have hregroup : ∀ t : List Char,
      sign ++ (w ++ (pointed f ++ y)) ++ t = sign ++ (w ++ (pointed f ++ (y ++ t))) := fun t => by
    simp only [List.append_assoc]
  refine ⟨sign ++ (w ++ (pointed f ++ y)), ?_, ?_, numberOf?_eq_some hd, fun place' tail ht => ?_⟩
  · rw [← hlen, hx, hcs, hy, ← hregroup, advance_append] at hc
    rw [hc, hregroup, hcs, hy]
  · obtain ⟨a, w, rfl⟩ := List.exists_cons_of_ne_nil hwhole
    exact ⟨sign, a, _, hsign, rfl, hdigits a List.mem_cons_self⟩
  · obtain ⟨hnodigit, hpoint, he⟩ := hexp tail ht
    refine (number_eq_ok_iff hsign hwhole hdigits (hw _ (noDigit_pointed f hnodigit)) (hf _ hnodigit hpoint)
      (hregroup tail)).2 ⟨he ▸ hd, ?_⟩
    rw [he, ← hlen, hx, advance_append]

/-! ### Words -/

theorem not_isPrefixOf_numeric {e : String × Datum} (he : e ∈ constants) (h : Numeric x) (tail : List Char) :
    e.1.toList.isPrefixOf (x ++ tail) = false := by
  obtain ⟨b, b', r, hr, hb, hb'⟩ : ∃ b b' r, e.1.toList = b :: b' :: r ∧ b.isDigit = false ∧
      (b = '-' → b'.isDigit = false) := by
    simp only [constants, List.mem_cons, List.not_mem_nil, or_false] at he
    rcases he with rfl | rfl | rfl | rfl | rfl | rfl <;> exact ⟨_, _, _, rfl, by decide, by decide⟩
  rw [hr]
  obtain ⟨sign, a, y, rfl | rfl, rfl, ha⟩ := h
  · have hne : b ≠ a := fun hba => by simp [← hba, hb] at ha
    simp [List.isPrefixOf, hne]
  · by_cases hminus : b = '-'
    · have hne : b' ≠ a := fun hba => by simp [← hba, hb' hminus] at ha
      simp [List.isPrefixOf, hne]
    · simp [List.isPrefixOf, hminus]

theorem constant?_of_numeric (h : Numeric x) (place : Nat) (tail : List Char) :
    constant? ⟨place, x ++ tail⟩ = none := by
  rw [constant?, Option.map_eq_none_iff, List.find?_eq_none]
  intro e he
  simp [not_isPrefixOf_numeric he h tail]

theorem exists_of_constant? (h : constant? ⟨place, cs⟩ = some (d, c)) :
    ∃ x, cs = x ++ c.rest ∧ x ≠ [] ∧ (∃ e ∈ constants, e.2 = d) ∧
      ∀ place' tail, constant? ⟨place', x ++ tail⟩ = some (d, ⟨place' + x.length, tail⟩) := by
  obtain ⟨⟨w, d'⟩, hfind, hval⟩ := Option.map_eq_some_iff.1 h
  have hmem := List.mem_of_find?_eq_some hfind
  have hword := List.find?_some hfind
  obtain ⟨t, rfl⟩ := List.isPrefixOf_iff_prefix.1 hword
  obtain ⟨rfl, rfl⟩ := Prod.mk.inj hval
  refine ⟨w.toList, by rw [← String.length_toList, advance_append], ?_, ⟨_, hmem, rfl⟩, ?_⟩
  all_goals simp only [constants, List.mem_cons, Prod.mk.injEq, List.not_mem_nil, or_false] at hmem
  · rcases hmem with ⟨rfl, -⟩ | ⟨rfl, -⟩ | ⟨rfl, -⟩ | ⟨rfl, -⟩ | ⟨rfl, -⟩ | ⟨rfl, -⟩ <;> decide
  · intro place' tail
    rcases hmem with ⟨rfl, rfl⟩ | ⟨rfl, rfl⟩ | ⟨rfl, rfl⟩ | ⟨rfl, rfl⟩ | ⟨rfl, rfl⟩ | ⟨rfl, rfl⟩ <;> rfl

end IssuePlanner.Data.Reader
