import IssuePlanner.Citation
import Mathlib.Tactic.Common

/-! Metadata comes as records or as dictionaries. What a part of it says does not depend on the form of the whole
(`part?_inForm`, `innerPart?_inForm`), so a text gets the same links from both (`exists_citeFrom_inForm`), whatever is
missing or null in the metadata. -/

namespace IssuePlanner

inductive Form where
  | records
  | dicts
  deriving DecidableEq, Repr

namespace Form

def node : Form → List (String × Datum) → Datum
  | records => .record
  | dicts => .dict

def part? : Form → String → Datum → Option Datum
  | records => Datum.field?
  | dicts => Datum.entry?

end Form

namespace Datum

mutual

/-- A value with all its named parts held in one way, down to the innermost. -/
def inForm (form : Form) : Datum → Datum
  | null => null
  | bool b => bool b
  | int i => int i
  | float x => float x
  | text s => text s
  | list xs => list (itemsInForm form xs)
  | dict es => form.node (entriesInForm form es)
  | record fs => form.node (entriesInForm form fs)

def itemsInForm (form : Form) : List Datum → List Datum
  | [] => []
  | x :: xs => inForm form x :: itemsInForm form xs

def entriesInForm (form : Form) : List (String × Datum) → List (String × Datum)
  | [] => []
  | (name, x) :: es => (name, inForm form x) :: entriesInForm form es

end

theorem itemsInForm_eq_map (form : Form) (xs : List Datum) : itemsInForm form xs = xs.map (inForm form) := by
  induction xs with
  | nil => rfl
  | cons x xs ih => rw [itemsInForm, ih, List.map_cons]

theorem get?_entriesInForm (form : Form) (name : String) (es : List (String × Datum)) :
    Entries.get? name (entriesInForm form es) = (Entries.get? name es).map (inForm form) := by
  induction es with
  | nil => rfl
  | cons e es ih =>
    unfold Entries.get? at ih ⊢
    by_cases h : e.1 = name
    · simp [entriesInForm, h]
    · simpa [entriesInForm, h] using ih

end Datum

namespace Citation

open Datum

theorem part?_inForm (form : Form) (name : String) (d : Datum) :
    part? name (d.inForm form) = (part? name d).map (inForm form) := by
  have hnode (es : List (String × Datum)) :
      part? name (form.node (entriesInForm form es)) = (Entries.get? name es).map (inForm form) := by
    rw [← get?_entriesInForm]
    cases form <;> rfl
  cases d with
  | dict es => exact hnode es
  | record fs => exact hnode fs
  | _ => rfl

/-- The part of a part, in whatever forms both are. -/
def deepPart? (outer inner : String) (d : Datum) : Option Datum := (part? outer d).bind (part? inner)

/-- Where all is in one form, it does not matter that a part is only read in the form of the whole. -/
theorem innerPart?_inForm (form : Form) (outer inner : String) (d : Datum) :
    innerPart? outer inner (d.inForm form) = (deepPart? outer inner d).map (inForm form) := by
  have houter : innerPart? outer inner (d.inForm form) = (part? outer (d.inForm form)).bind (form.part? inner) := by
    cases d <;> cases form <;> rfl
  have hinner (x : Datum) : form.part? inner (x.inForm form) = part? inner (x.inForm form) := by
    cases x <;> cases form <;> rfl
  rw [houter, part?_inForm, deepPart?]
  cases part? outer d with
  | none => rfl
  | some x => exact (hinner x).trans (part?_inForm form inner x)

/-! ### What metadata says -/

def Optional (P : Datum → Prop) (part : Option Datum) : Prop := ∀ x ∈ part, x = .null ∨ P x

def IsListOf (P : Datum → Prop) (d : Datum) : Prop := ∃ ds, d = .list ds ∧ ∀ x ∈ ds, P x

/-- A support with the end of its claim and the numbers of its sources, as far as they are known. -/
@[mk_iff]
structure IsSupport (d : Datum) : Prop where
  stop : Optional (fun x => ∃ i, x = .int i) (deepPart? "segment" "end_index" d)
  sources : Optional (IsListOf fun x => ∃ n, x = .int n ∧ 0 ≤ n) (part? "grounding_chunk_indices" d)

/-- A source with its address, if that is known. -/
@[mk_iff]
structure IsSource (d : Datum) : Prop where
  address : Optional (fun x => ∃ s, x = .text s) (deepPart? "web" "uri" d)

@[mk_iff]
structure IsGrounding (d : Datum) : Prop where
  supports : Optional (IsListOf IsSupport) (part? "grounding_supports" d)
  sources : Optional (IsListOf IsSource) (part? "grounding_chunks" d)

variable {d : Datum}

theorem Optional.cases {P : Datum → Prop} {part : Option Datum} (h : Optional P part) :
    part = none ∨ part = some .null ∨ ∃ x, part = some x ∧ P x := by
  cases part with
  | none => exact .inl rfl
  | some x =>
    rcases h x rfl with rfl | hx
    · exact .inr (.inl rfl)
    · exact .inr (.inr ⟨x, rfl, hx⟩)

/-- A list of items is present in both forms or in none, and has the same items. -/
theorem held_inForm {P : Datum → Prop} {name : String} (h : Optional (IsListOf P) (part? name d)) :
    (∀ form, (part? name (d.inForm form)).filter holds = none) ∨
      ∃ ds : List Datum, (∀ x ∈ ds, P x) ∧
        ∀ form, (part? name (d.inForm form)).filter holds = some (.list (ds.map (inForm form))) := by
  simp only [part?_inForm]
  rcases h.cases with hd | hd | ⟨_, hd, ds, rfl, hds⟩
  · exact .inl fun form => by rw [hd]; rfl
  · exact .inl fun form => by rw [hd]; rfl
  · cases ds with
    | nil => exact .inl fun form => by rw [hd]; rfl
    | cons x xs =>
      refine .inr ⟨x :: xs, hds, fun form => ?_⟩
      rw [hd, ← itemsInForm_eq_map]
      rfl

theorem exists_mapM {ι ε α β : Type} {f : ι → α → Except ε β} {P : β → Prop} {xs : List α}
    (h : ∀ x ∈ xs, ∃ b, P b ∧ ∀ i, f i x = .ok b) : ∃ bs, (∀ b ∈ bs, P b) ∧ ∀ i, xs.mapM (f i) = .ok bs := by
  induction xs with
  | nil => exact ⟨[], by simp, fun i => rfl⟩
  | cons x xs ih =>
    obtain ⟨b, hb, hx⟩ := h x List.mem_cons_self
    obtain ⟨bs, hbs, hxs⟩ := ih fun y hy => h y (List.mem_cons_of_mem x hy)
    refine ⟨b :: bs, List.forall_mem_cons.2 ⟨hb, hbs⟩, fun i => ?_⟩
    rw [List.mapM_cons, hx, hxs]
    rfl

theorem exists_stopOf (h : IsSupport d) : ∃ i, ∀ form, stopOf (d.inForm form) = .ok i := by
  unfold stopOf
  simp only [innerPart?_inForm]
  rcases h.stop.cases with hd | hd | ⟨_, hd, i, rfl⟩
  · exact ⟨0, fun form => by rw [hd]; rfl⟩
  · exact ⟨0, fun form => by rw [hd]; rfl⟩
  · exact ⟨i, fun form => by rw [hd]; rfl⟩

theorem exists_sourcesOf (h : IsSupport d) :
    ∃ ns, (∀ n ∈ ns, 0 ≤ n) ∧ ∀ form, sourcesOf (d.inForm form) = .ok ns := by
  unfold sourcesOf
  rcases held_inForm h.sources with hnone | ⟨ds, hds, hsome⟩
  · exact ⟨[], by simp, fun form => by rw [hnone form]⟩
  · have hread : ∀ x ∈ ds, ∃ n, 0 ≤ n ∧ ∀ form, (wholeNumber ∘ inForm form) x = .ok n := by
      intro x hx
      obtain ⟨n, rfl, hn⟩ := hds x hx
      exact ⟨n, hn, fun form => rfl⟩
    obtain ⟨ns, hns, hmap⟩ := exists_mapM hread
    refine ⟨ns, hns, fun form => ?_⟩
    rw [hsome form, ← hmap form, ← List.mapM_map]
    rfl

theorem exists_supportOf (h : IsSupport d) :
    ∃ s : Support, (∀ n ∈ s.sources, 0 ≤ n) ∧ ∀ form, supportOf (d.inForm form) = .ok s := by
  obtain ⟨i, hi⟩ := exists_stopOf h
  obtain ⟨ns, hns, hsources⟩ := exists_sourcesOf h
  refine ⟨⟨i, ns⟩, hns, fun form => ?_⟩
  rw [supportOf, hi, hsources]
  rfl

theorem exists_address? (h : IsSource d) : ∃ a, ∀ form, address? (d.inForm form) = a := by
  unfold address?
  simp only [innerPart?_inForm]
  rcases h.address.cases with hd | hd | ⟨_, hd, s, rfl⟩
  · exact ⟨none, fun form => by rw [hd]; rfl⟩
  · exact ⟨none, fun form => by rw [hd]; rfl⟩
  · exact ⟨((some (.text s)).filter holds).map display, fun form => by rw [hd]; rfl⟩

theorem exists_addresses {ds : List Datum} (h : ∀ x ∈ ds, IsSource x) :
    ∃ addresses, ∀ form, (ds.map (inForm form)).map address? = addresses := by
  refine ⟨(ds.map (inForm .dicts)).map address?, fun form => ?_⟩
  rw [List.map_map, List.map_map]
  apply List.map_congr_left
  intro x hx
  obtain ⟨a, ha⟩ := exists_address? (h x hx)
  exact (ha form).trans (ha .dicts).symm

/-! ### The links are found -/

theorem exists_link? (addresses : List (Option String)) {source : Int} (h : 0 ≤ source) :
    ∃ l, link? addresses source = .ok l := by
  unfold link?
  split
  · exact ⟨none, rfl⟩
  · next hlt =>
    have hplace : place? addresses.length source = some source.toNat := by
      have hsource : ¬ source < 0 := Int.not_lt.2 h
      simp only [place?, hsource, if_false]
      exact if_pos ⟨h, Int.not_le.1 hlt⟩
    rw [hplace, Option.bind_some, List.getElem?_eq_getElem (by omega)]
    exact ⟨_, rfl⟩

theorem exists_links (addresses : List (Option String)) {s : Support} (h : ∀ n ∈ s.sources, 0 ≤ n) :
    ∃ t, links addresses s = .ok t := by
  have hlinks : ∀ n ∈ s.sources, ∃ l, True ∧ ∀ _ : Unit, link? addresses n = .ok l := by
    intro n hn
    obtain ⟨l, hl⟩ := exists_link? addresses (h n hn)
    exact ⟨l, trivial, fun _ => hl⟩
  obtain ⟨ls, -, hls⟩ := exists_mapM hlinks
  unfold links
  rw [hls ()]
  exact ⟨_, rfl⟩

theorem exists_insertLinks (addresses : List (Option String)) (cs : List Char) {supports : List Support}
    (h : ∀ s ∈ supports, ∀ n ∈ s.sources, 0 ≤ n) : ∃ out, insertLinks addresses cs supports = .ok out := by
  induction supports generalizing cs with
  | nil => exact ⟨cs, rfl⟩
  | cons s rest ih =>
    obtain ⟨t, ht⟩ := exists_links addresses (h s List.mem_cons_self)
    obtain ⟨out, hout⟩ := ih (insertAt cs s.stop t.toList) fun s' hs' => h s' (List.mem_cons_of_mem s hs')
    refine ⟨out, ?_⟩
    rw [insertLinks, ht]
    exact hout

theorem exists_cite (text : String) (addresses : List (Option String)) {supports : List Support}
    (h : ∀ s ∈ supports, ∀ n ∈ s.sources, 0 ≤ n) : ∃ out, cite text supports addresses = .ok out := by
  have hsorted : ∀ s ∈ lastFirst supports, ∀ n ∈ s.sources, 0 ≤ n := by
    intro s hs
    exact h s (List.mem_mergeSort.1 hs)
  obtain ⟨out, hout⟩ := exists_insertLinks addresses text.toList hsorted
  unfold cite
  rw [hout]
  exact ⟨_, rfl⟩

/-- A text gets the same links from metadata that is all records and from metadata that is all dictionaries. -/
theorem exists_citeFrom_inForm (text : String) {d : Datum} (h : IsGrounding d) :
    ∃ cited, ∀ form, citeFrom text (d.inForm form) = .ok cited := by
  unfold citeFrom
  rcases held_inForm h.supports with hsupports | ⟨supports, hsupport, hsupports⟩
  · exact ⟨text, fun form => by rw [hsupports form]⟩
  rcases held_inForm h.sources with hsources | ⟨sources, hsource, hsources⟩
  · exact ⟨text, fun form => by rw [hsupports form, hsources form]⟩
  simp only [hsupports, hsources]
  split
  · exact ⟨text, fun form => rfl⟩
  · obtain ⟨read, hread, hmap⟩ := exists_mapM (f := fun form => supportOf ∘ inForm form)
      fun x hx => exists_supportOf (hsupport x hx)
    obtain ⟨addresses, haddresses⟩ := exists_addresses hsource
    obtain ⟨cited, hcited⟩ := exists_cite text addresses hread
    refine ⟨cited, fun form => ?_⟩
    have hsupportOf : (supports.map (inForm form)).mapM supportOf = .ok read := List.mapM_map.trans (hmap form)
    change ((supports.map (inForm form)).mapM supportOf >>= fun read => cite text read _) = _
    rw [hsupportOf, haddresses]
    exact hcited

/-- Metadata of mixed form and out of order, with much that is missing or null. The number 7 names no source. -/
def sparseMetadata : Datum :=
  .dict [("grounding_supports", .list [
      .dict [("segment", .record [("end_index", .null)]), ("grounding_chunk_indices", .list [.int 0])],
      .dict [("grounding_chunk_indices", .list [.int 0, .int 1, .int 7]), ("segment", .dict [("end_index", .int 2)])],
      .record [("segment", .null), ("grounding_chunk_indices", .null)],
      .null]),
    ("grounding_chunks", .list [
      .record [("web", .dict [("title", .text "A page"), ("uri", .text "u")])],
      .dict [("web", .record [("uri", .null)])],
      .dict [("web", .null)]])]

theorem isGrounding_sparseMetadata : IsGrounding sparseMetadata := by
  simp [sparseMetadata, isGrounding_iff, isSupport_iff, isSource_iff, Optional, IsListOf, part?, deepPart?, Entries.get?]

theorem citeFrom_sparseMetadata :
    IsGrounding sparseMetadata ∧
      ∀ form, citeFrom "It rains." (sparseMetadata.inForm form) = .ok "[1](u)It[1](u) rains." := by
  have hread : citeFrom "It rains." (sparseMetadata.inForm .dicts) =
      cite "It rains." [⟨0, [0]⟩, ⟨2, [0, 1, 7]⟩, ⟨0, []⟩, ⟨0, []⟩] [some "u", none, none] := rfl
  have hsort : lastFirst [⟨0, [0]⟩, ⟨2, [0, 1, 7]⟩, ⟨0, []⟩, ⟨0, []⟩] =
      [⟨2, [0, 1, 7]⟩, ⟨0, [0]⟩, ⟨0, []⟩, ⟨0, []⟩] := by
    simp [lastFirst, List.mergeSort]
  have hdicts : citeFrom "It rains." (sparseMetadata.inForm .dicts) = .ok "[1](u)It[1](u) rains." := by
    rw [hread, cite, hsort]
    rfl
  obtain ⟨cited, h⟩ := exists_citeFrom_inForm "It rains." isGrounding_sparseMetadata
  refine ⟨isGrounding_sparseMetadata, fun form => ?_⟩
  rw [h form, ← h .dicts, hdicts]

end Citation

end IssuePlanner
