import IssuePlanner.Citation
import Mathlib.Data.List.Basic
import Mathlib.Data.List.Forall2
import Mathlib.Tactic.Common

/-! What metadata says. `Grounds` ties metadata of any form to the supports and the addresses that it gives, where a part
may be missing or null, and these are what is read from it (`citeFrom_of_grounds`). The links of a support are a text of
their own (`citation`), whatever text they are put into (`links_eq`). -/

namespace IssuePlanner.Citation

open Datum

/-! ### Reading -/

/-- A part gives a value: it is the written value, or it is missing or null and stands for `absent`. -/
def Given {α : Type} (write : α → Datum) (absent : α) (part : Option Datum) (a : α) : Prop :=
  part = some (write a) ∨ (part = none ∨ part = some .null) ∧ a = absent

/-- A support gives the end of its claim, else the start of the text, and the numbers of its sources. -/
structure SupportIs (d : Datum) (s : Support) : Prop where
  stop : Given .int 0 (innerPart? "segment" "end_index" d) s.stop
  sources : Given (fun ns => .list (ns.map .int)) [] (part? "grounding_chunk_indices" d) s.sources

/-- A source gives its address; an empty one is none. -/
def AddressIs (d : Datum) (address : Option String) : Prop :=
  ∃ s, Given .text "" (innerPart? "web" "uri" d) s ∧ address = if s = "" then none else some s

structure Grounds (d : Datum) (supports : List Support) (addresses : List (Option String)) : Prop where
  supports : ∃ ds, Given .list [] (part? "grounding_supports" d) ds ∧ List.Forall₂ SupportIs ds supports
  sources : ∃ ds, Given .list [] (part? "grounding_chunks" d) ds ∧ List.Forall₂ AddressIs ds addresses

variable {d : Datum} {s : Support} {supports : List Support} {address : Option String}
  {addresses : List (Option String)}

theorem Given.filter_holds {α : Type} {write : α → Datum} {absent a : α} {part : Option Datum}
    (h : Given write absent part a) (habsent : (write absent).holds = false) :
    part.filter holds = (some (write a)).filter holds := by
  rcases h with rfl | ⟨rfl | rfl, rfl⟩
  · rfl
  · rw [Option.filter_some, habsent]
    rfl
  · rw [Option.filter_some, Option.filter_some, habsent]
    rfl

theorem SupportIs.stopOf (h : SupportIs d s) : stopOf d = .ok s.stop := by
  unfold Citation.stopOf
  rcases h.stop with hd | ⟨hd | hd, hstop⟩
  · rw [hd]
    rfl
  · rw [hd, hstop]
    rfl
  · rw [hd, hstop]
    rfl

theorem mapM_wholeNumber (ns : List Int) : (ns.map .int).mapM wholeNumber = .ok ns := by
  induction ns with
  | nil => rfl
  | cons n ns ih =>
    rw [List.map_cons, List.mapM_cons, ih]
    rfl

theorem SupportIs.sourcesOf (h : SupportIs d s) : sourcesOf d = .ok s.sources := by
  unfold Citation.sourcesOf
  rw [h.sources.filter_holds rfl]
  cases hs : s.sources with
  | nil => rfl
  | cons n ns => exact mapM_wholeNumber (n :: ns)

theorem SupportIs.supportOf (h : SupportIs d s) : supportOf d = .ok s := by
  rw [Citation.supportOf, h.stopOf, h.sourcesOf]
  rfl

theorem mapM_supportOf {ds : List Datum} (h : List.Forall₂ SupportIs ds supports) :
    ds.mapM supportOf = .ok supports := by
  induction h with
  | nil => rfl
  | cons hd _ ih =>
    rw [List.mapM_cons, hd.supportOf, ih]
    rfl

theorem AddressIs.address? (h : AddressIs d address) : address? d = address := by
  obtain ⟨s, hs, rfl⟩ := h
  unfold Citation.address?
  rw [hs.filter_holds rfl, Option.filter_some]
  by_cases hempty : s = ""
  · simp [hempty, holds]
  · simp [hempty, holds, display]

theorem map_address? {ds : List Datum} (h : List.Forall₂ AddressIs ds addresses) : ds.map address? = addresses := by
  induction h with
  | nil => rfl
  | cons hd _ ih => rw [List.map_cons, hd.address?, ih]

/-- Links are put into a text if there are supports and sources, and they are those that the metadata gives. -/
theorem citeFrom_of_grounds (h : Grounds d supports addresses) (text : String) :
    citeFrom text d =
      if text = "" ∨ supports = [] ∨ addresses = [] then .ok text else cite text supports addresses := by
  obtain ⟨ds, hds, hsupports⟩ := h.supports
  obtain ⟨es, hes, haddresses⟩ := h.sources
  have hread := mapM_supportOf hsupports
  have hmap := map_address? haddresses
  unfold citeFrom
  rw [hds.filter_holds rfl, hes.filter_holds rfl]
  cases hsupports with
  | nil =>
    rw [if_pos (.inr (.inl rfl))]
    rfl
  | @cons x _ xs _ _ _ =>
    cases haddresses with
    | nil =>
      rw [if_pos (.inr (.inr rfl))]
      rfl
    | @cons y _ ys _ _ _ =>
      by_cases htext : text = ""
      · rw [if_pos (.inl htext), htext]
        rfl
      · rw [if_neg (by simpa using htext)]
        change (if text == "" then _ else (x :: xs).mapM supportOf >>= fun read =>
          cite text read ((y :: ys).map address?)) = _
        rw [if_neg (by simpa using htext), hread, hmap]
        rfl

/-! ### The links of a support -/

/-- The link to a source, if the source is there and has an address. A negative number counts from the last source. -/
def linkAt? (addresses : List (Option String)) (n : Int) : Option String :=
  ((place? addresses.length n).bind fun i => addresses[i]?).join.map (link n)

def citation (addresses : List (Option String)) (s : Support) : List Char :=
  (Text.join ", " (s.sources.filterMap (linkAt? addresses))).toList

theorem place?_of_nonneg {n : Int} (h : 0 ≤ n) (k : Nat) : place? k n = if n < k then some n.toNat else none := by
  have hn : ¬ n < 0 := Int.not_lt.2 h
  simp only [place?, hn, if_false, h, true_and]

theorem exists_place? {k : Nat} {n : Int} (hle : -(k : Int) ≤ n) (hlt : n < k) : ∃ i, place? k n = some i ∧ i < k := by
  unfold place?
  by_cases hneg : n < 0
  · simp only [if_pos hneg]
    exact ⟨(n + k).toNat, if_pos (by omega), by omega⟩
  · simp only [if_neg hneg]
    exact ⟨n.toNat, if_pos (by omega), by omega⟩

theorem linkAt?_of_nonneg {n : Int} (h : 0 ≤ n) : linkAt? addresses n = addresses[n.toNat]?.join.map (link n) := by
  rw [linkAt?, place?_of_nonneg h]
  split_ifs with hlt
  · rfl
  · rw [List.getElem?_eq_none (by omega)]
    rfl

/-- A source that is not counted beyond the first is linked or left out. -/
theorem link?_eq {n : Int} (h : -(addresses.length : Int) ≤ n) : link? addresses n = .ok (linkAt? addresses n) := by
  unfold link? linkAt?
  by_cases hbeyond : (addresses.length : Int) ≤ n
  · rw [if_pos hbeyond, place?_of_nonneg (by omega), if_neg (by omega)]
    rfl
  · obtain ⟨i, hplace, hi⟩ := exists_place? h (Int.not_le.1 hbeyond)
    rw [if_neg hbeyond, hplace, Option.bind_some, List.getElem?_eq_getElem hi]
    rfl

theorem links_eq (h : ∀ n ∈ s.sources, -(addresses.length : Int) ≤ n) :
    links addresses s = .ok (String.ofList (citation addresses s)) := by
  have hmap (ns : List Int) (hns : ∀ n ∈ ns, -(addresses.length : Int) ≤ n) :
      ns.mapM (link? addresses) = .ok (ns.map (linkAt? addresses)) := by
    induction ns with
    | nil => rfl
    | cons n ns ih =>
      rw [List.mapM_cons, link?_eq (hns n List.mem_cons_self), ih fun m hm => hns m (List.mem_cons_of_mem n hm)]
      rfl
  rw [links, hmap s.sources h, citation, String.ofList_toList]
  change Except.ok (Text.join ", " ((s.sources.map (linkAt? addresses)).filterMap id)) = _
  rw [List.filterMap_map]
  rfl

/-! ### The cited text -/

def putLinks (addresses : List (Option String)) (cs : List Char) (s : Support) : List Char :=
  insertAt cs s.stop (citation addresses s)

theorem mem_lastFirst : s ∈ lastFirst supports ↔ s ∈ supports := List.mem_mergeSort

theorem insertAt_nil (cs : List Char) (i : Int) : insertAt cs i [] = cs := by
  simp [insertAt, cutAt]

theorem citation_of_no_addresses (s : Support) : citation [] s = [] := by
  have hnone (n : Int) : linkAt? [] n = none := by simp [linkAt?]
  rw [citation, List.filterMap_congr fun n _ => hnone n, List.filterMap_none]
  rfl

theorem insertLinks_eq_foldl (h : ∀ s ∈ supports, ∀ n ∈ s.sources, -(addresses.length : Int) ≤ n) (cs : List Char) :
    insertLinks addresses cs supports = .ok (supports.foldl (putLinks addresses) cs) := by
  induction supports generalizing cs with
  | nil => rfl
  | cons s rest ih =>
    obtain ⟨hs, hrest⟩ := List.forall_mem_cons.1 h
    rw [insertLinks, links_eq hs, List.foldl_cons, ← ih hrest, putLinks]
    change insertLinks addresses (insertAt cs s.stop (String.ofList (citation addresses s)).toList) rest = _
    rw [String.toList_ofList]

theorem cite_eq_foldl (h : ∀ s ∈ supports, ∀ n ∈ s.sources, -(addresses.length : Int) ≤ n) (text : String) :
    cite text supports addresses =
      .ok (String.ofList ((lastFirst supports).foldl (putLinks addresses) text.toList)) := by
  rw [cite, insertLinks_eq_foldl fun s hs => h s (mem_lastFirst.1 hs)]
  rfl

/-- A text gets its links from the last support to the first, unless a source is counted from the end and is not
there. -/
theorem citeFrom_eq_foldl (h : Grounds d supports addresses) {text : String} (htext : text ≠ "")
    (hsources : addresses ≠ [] → ∀ s ∈ supports, ∀ n ∈ s.sources, -(addresses.length : Int) ≤ n) :
    citeFrom text d = .ok (String.ofList ((lastFirst supports).foldl (putLinks addresses) text.toList)) := by
  rw [citeFrom_of_grounds h]
  split_ifs with hnone
  · rcases hnone with hempty | rfl | rfl
    · exact absurd hempty htext
    · simp [lastFirst]
    · have hput (s : Support) : putLinks [] text.toList s = text.toList := by
        rw [putLinks, citation_of_no_addresses, insertAt_nil]
      rw [List.foldl_fixed' hput, String.ofList_toList]
  · exact cite_eq_foldl (hsources fun hnil => hnone (.inr (.inr hnil))) text

end IssuePlanner.Citation
