import IssuePlanner.Proofs.Citation.Metadata
import IssuePlanner.Proofs.Text.Words
import Mathlib.Algebra.Order.BigOperators.Group.List
import Mathlib.Algebra.Order.Ring.Nat

/-! A whole reply and its metadata give the same links. Both are read alike, and both insert alike (`citeReply_eq`); only
a source without an address is left out by one and written out by the other. So if no attribute is missing, the two agree
exactly if every source that a support names, and that is there, has an address (`citeReply_agrees_iff`). -/

namespace IssuePlanner.Citation

variable {reply metadata : Datum} {text : String} {supports : List Support} {addresses : List (Option String)}

/-- A reply has a text, and its first candidate has metadata. -/
structure Carries (reply : Datum) (text : String) (metadata : Datum) : Prop where
  text : reply.field? "text" = some (.text text)
  candidate : ∃ first rest, reply.field? "candidates" = some (.list (first :: rest)) ∧
    first.field? "grounding_metadata" = some metadata

/-- An attribute is there, and so is an attribute of it unless it is empty. -/
def HasInner (outer inner : String) (d : Datum) : Prop :=
  ∃ x, d.field? outer = some x ∧ (x.holds = true → ∃ y, x.field? inner = some y)

/-- Every attribute of some metadata is there, if only as null. -/
structure IsWhole (metadata : Datum) : Prop where
  supports : ∃ x, metadata.field? "grounding_supports" = some x
  sources : ∃ x, metadata.field? "grounding_chunks" = some x
  segment : ∀ ds, metadata.field? "grounding_supports" = some (.list ds) → ∀ d ∈ ds, HasInner "segment" "end_index" d
  indices : ∀ ds, metadata.field? "grounding_supports" = some (.list ds) → ∀ d ∈ ds,
    ∃ x, d.field? "grounding_chunk_indices" = some x
  web : ∀ es, metadata.field? "grounding_chunks" = some (.list es) → ∀ e ∈ es, HasInner "web" "uri" e

/-! ### Reading a reply -/

section Reading

variable {α : Type} {write : α → Datum} {absent a : α} {d e x : Datum} {name outer inner : String} {s : Support}
  {ds es : List Datum}

theorem field_eq (h : d.field? name = some x) : d.field name = .ok x := by
  rw [Datum.field, h]

theorem part?_of_field? (h : d.field? name = some x) (other : String) : part? other d = d.field? other := by
  cases d with
  | record fs => rfl
  | _ => cases h

theorem holds_of_field? (h : d.field? name = some x) : d.holds = true := by
  cases d with
  | record fs => rfl
  | _ => cases h

theorem given_some_iff : Given write absent (some x) a ↔ x = write a ∨ x = .null ∧ a = absent := by
  simp [Given]

theorem HasInner.innerField (h : HasInner outer inner d) (hgiven : Given write absent (innerPart? outer inner d) a) :
    ∃ y, innerField outer inner d = .ok y ∧ (y = write a ∨ y = .null ∧ a = absent) := by
  obtain ⟨x, hx, hinner⟩ := h
  have hpart : innerPart? outer inner d = x.field? inner := by
    cases d with
    | record fs =>
      show (Entries.get? outer fs).bind (Datum.field? inner) = _
      rw [show Entries.get? outer fs = some x from hx, Option.bind_some]
    | _ => cases hx
  rw [hpart] at hgiven
  unfold Citation.innerField
  rw [field_eq hx]
  cases hholds : x.holds with
  | true =>
    obtain ⟨y, hy⟩ := hinner hholds
    rw [hy, given_some_iff] at hgiven
    refine ⟨y, ?_, hgiven⟩
    show (if x.holds = true then x.field inner else pure .null) = _
    rw [if_pos hholds, field_eq hy]
  | false =>
    have hnone : x.field? inner = none := by
      cases x with
      | record fs => cases hholds
      | _ => rfl
    rw [hnone] at hgiven
    refine ⟨.null, ?_, .inr ⟨rfl, ?_⟩⟩
    · show (if x.holds = true then x.field inner else pure .null) = _
      rw [if_neg (by simp [hholds])]
      rfl
    · simpa [Given] using hgiven

theorem replyStop_eq (h : HasInner "segment" "end_index" d) (hs : SupportIs d s) : replyStop d = .ok s.stop := by
  obtain ⟨y, hy, hstop⟩ := h.innerField hs.stop
  unfold replyStop
  rw [hy]
  rcases hstop with rfl | ⟨rfl, hstop⟩
  · rfl
  · rw [hstop]
    rfl

theorem replySources_eq (h : ∃ x, d.field? "grounding_chunk_indices" = some x) (hs : SupportIs d s) :
    replySources d = .ok s.sources := by
  obtain ⟨x, hx⟩ := h
  have hgiven := hs.sources
  rw [part?_of_field? hx, hx, given_some_iff] at hgiven
  unfold replySources
  rw [field_eq hx]
  rcases hgiven with rfl | ⟨rfl, hsources⟩
  · cases hsources : s.sources with
    | nil => rfl
    | cons n ns => exact mapM_wholeNumber (n :: ns)
  · rw [hsources]
    rfl

theorem itemsOf_eq (hx : d.field? name = some x) (h : Given .list [] (part? name d) ds) :
    itemsOf name d = .ok ds ∧ (d.field? name = some (.list ds) ∨ ds = []) := by
  rw [part?_of_field? hx, hx, given_some_iff] at h
  have hitems : itemsOf name d = if x.holds then x.iterate else .ok [] := by
    unfold itemsOf
    rw [if_pos (holds_of_field? hx), field_eq hx]
    rfl
  rw [hitems, hx]
  rcases h with rfl | ⟨rfl, rfl⟩
  · refine ⟨?_, .inl rfl⟩
    cases ds <;> rfl
  · exact ⟨rfl, .inr rfl⟩

theorem item_zero (first : Datum) (rest : List Datum) : Datum.item 0 (.list (first :: rest)) = .ok first := by
  have hplace : Datum.place? (first :: rest).length 0 = some 0 := by
    rw [place?_of_nonneg le_rfl, if_pos (by simp)]
    rfl
  unfold Datum.item
  simp only [hplace, Option.bind_some, List.getElem?_cons_zero]

theorem Carries.metadataOf (h : Carries reply text metadata) : metadataOf reply = .ok metadata := by
  obtain ⟨first, rest, hcandidates, hmetadata⟩ := h.candidate
  unfold Citation.metadataOf
  rw [field_eq hcandidates]
  show (Datum.item 0 (.list (first :: rest)) >>= fun first => first.field "grounding_metadata") = _
  rw [item_zero]
  exact field_eq hmetadata

end Reading

/-! ### Inserting the links of a reply -/

/-- Addresses where a missing one is written out. -/
def writtenOut (addresses : List (Option String)) : List (Option String) :=
  addresses.map fun a => some (a.getD "None")

theorem exists_address {e : Datum} {address : Option String} (h : HasInner "web" "uri" e) (ha : AddressIs e address) :
    ∃ y, innerField "web" "uri" e = .ok y ∧ (if y.holds then y.display else "None") = address.getD "None" := by
  obtain ⟨s, hs, rfl⟩ := ha
  obtain ⟨y, hy, hread⟩ := h.innerField hs
  refine ⟨y, hy, ?_⟩
  rcases hread with rfl | ⟨rfl, rfl⟩
  · by_cases hempty : s = "" <;> simp [hempty, Datum.holds, Datum.display]
  · rfl

/-- A source of a reply is linked as if a missing address were written out. -/
theorem replyLink?_eq {es : List Datum} (haddresses : List.Forall₂ AddressIs es addresses)
    (hweb : ∀ e ∈ es, HasInner "web" "uri" e) (n : Int) : replyLink? es n = link? (writtenOut addresses) n := by
  have hlength : (writtenOut addresses).length = es.length := by
    rw [writtenOut, List.length_map, haddresses.length_eq]
  unfold replyLink? link?
  rw [hlength]
  split_ifs with hbeyond
  · rfl
  · cases hplace : Datum.place? es.length n with
    | none => rfl
    | some i =>
      rw [Option.bind_some, Option.bind_some, writtenOut, List.getElem?_map]
      rcases lt_or_ge i es.length with hi | hi
      · have hi' : i < addresses.length := haddresses.length_eq ▸ hi
        rw [List.getElem?_eq_getElem hi, List.getElem?_eq_getElem hi']
        obtain ⟨y, hy, hread⟩ := exists_address (hweb _ (List.getElem_mem hi)) (haddresses.get hi hi')
        show (innerField "web" "uri" es[i] >>= fun address => pure (some (link n _))) = _
        rw [hy]
        exact congrArg (fun address => Except.ok (some (link n address))) hread
      · rw [List.getElem?_eq_none hi, List.getElem?_eq_none (haddresses.length_eq ▸ hi)]
        rfl

theorem insertReplyLinks_eq {es : List Datum} (hlink : ∀ n, replyLink? es n = link? addresses n)
    {zs : List (Support × Datum)} (hzs : ∀ z ∈ zs, replySources z.2 = .ok z.1.sources) (cs : List Char) :
    insertReplyLinks es cs (zs.map (Prod.map (·.stop) id)) = insertLinks addresses cs (zs.map Prod.fst) := by
  induction zs generalizing cs with
  | nil => rfl
  | cons z zs ih =>
    rw [List.forall_mem_cons] at hzs
    rw [List.map_cons, List.map_cons, Prod.map, insertReplyLinks, insertLinks, links, id, hzs.1, ← funext hlink]
    show (z.1.sources.mapM (replyLink? es) >>= _) = (_ >>= _) >>= _
    cases z.1.sources.mapM (replyLink? es) with
    | error f => rfl
    | ok found => exact ih hzs.2 _

theorem mapM_replyStop {ds : List Datum} (h : List.Forall₂ SupportIs ds supports)
    (hsegment : ∀ d ∈ ds, HasInner "segment" "end_index" d) : ds.mapM replyStop = .ok (supports.map (·.stop)) := by
  induction h with
  | nil => rfl
  | cons hd _ ih =>
    rw [List.forall_mem_cons] at hsegment
    rw [List.mapM_cons, replyStop_eq hsegment.1 hd, ih hsegment.2]
    rfl

theorem citeReply_eq (hreply : Carries reply text metadata) (hwhole : IsWhole metadata)
    (h : Grounds metadata supports addresses) (htext : text ≠ "") :
    citeReply reply = cite text supports (writtenOut addresses) := by
  obtain ⟨ds, hds, hsupports⟩ := h.supports
  obtain ⟨es, hes, haddresses⟩ := h.sources
  obtain ⟨x, hx⟩ := hwhole.supports
  obtain ⟨y, hy⟩ := hwhole.sources
  obtain ⟨hitems, hlist⟩ := itemsOf_eq hx hds
  obtain ⟨hitems', hlist'⟩ := itemsOf_eq hy hes
  have hsegment : ∀ d ∈ ds, HasInner "segment" "end_index" d := by
    rcases hlist with hlist | rfl
    · exact hwhole.segment ds hlist
    · simp
  have hindices : ∀ d ∈ ds, ∃ x, d.field? "grounding_chunk_indices" = some x := by
    rcases hlist with hlist | rfl
    · exact hwhole.indices ds hlist
    · simp
  have hweb : ∀ e ∈ es, HasInner "web" "uri" e := by
    rcases hlist' with hlist' | rfl
    · exact hwhole.web es hlist'
    · simp
  -- supports and their data are sorted as one list of pairs
  set zs := (supports.zip ds).mergeSort fun z w => decide (w.1.stop ≤ z.1.stop)
  have hread : ∀ z ∈ zs, replySources z.2 = .ok z.1.sources := by
    intro z hz
    have hmem := List.mem_mergeSort.1 hz
    exact replySources_eq (hindices z.2 (List.of_mem_zip hmem).2) (List.forall₂_zip hsupports.flip hmem)
  have horder : (((supports.map (·.stop)).zip ds).mergeSort fun a b => decide (b.1 ≤ a.1)) =
      zs.map (Prod.map (·.stop) id) := by
    rw [List.zip_map_left]
    exact (List.map_mergeSort (f := Prod.map Support.stop id) fun _ _ _ _ => rfl).symm
  have hlastFirst : lastFirst supports = zs.map Prod.fst := by
    have hsorted : lastFirst ((supports.zip ds).map Prod.fst) = zs.map Prod.fst :=
      (List.map_mergeSort (f := Prod.fst) fun _ _ _ _ => rfl).symm
    rwa [List.map_fst_zip hsupports.length_eq.ge] at hsorted
  unfold citeReply cite
  rw [field_eq hreply.text, hreply.metadataOf]
  show (itemsOf "grounding_supports" metadata >>= fun ds => itemsOf "grounding_chunks" metadata >>= fun es =>
    if text == "" then pure "" else ds.mapM replyStop >>= fun stops => insertReplyLinks es text.toList
      ((stops.zip ds).mergeSort fun a b => decide (b.1 ≤ a.1)) >>= fun cs => pure (String.ofList cs)) = _
  rw [hitems, hitems']
  show (if text == "" then pure "" else ds.mapM replyStop >>= _) = _
  rw [if_neg (by simpa using htext), mapM_replyStop hsupports hsegment]
  show (insertReplyLinks es text.toList (((supports.map (·.stop)).zip ds).mergeSort _) >>= _) = _
  rw [horder, insertReplyLinks_eq (replyLink?_eq haddresses hweb) hread, hlastFirst]

/-! ### The length of a cited text -/

def linkLength (addresses : List (Option String)) (n : Int) : Nat := (linkAt? addresses n).elim 0 (·.length + 2)

theorem length_citation (addresses : List (Option String)) (s : Support) :
    (citation addresses s).length = (s.sources.map (linkLength addresses)).sum - 2 := by
  have hsum (ns : List Int) : (((ns.filterMap (linkAt? addresses)).map String.toList).map
      fun l => l.length + (", " : String).toList.length).sum = (ns.map (linkLength addresses)).sum := by
    induction ns with
    | nil => rfl
    | cons n ns ih =>
      rw [List.map_cons, List.sum_cons, ← ih, List.filterMap_cons, linkLength]
      cases linkAt? addresses n with
      | none => simp
      | some l => simp [String.length_toList]
  rw [citation, Text.toList_join, Text.length_joinWith, hsum]
  rfl

theorem length_foldl_putLinks (addresses : List (Option String)) (cs : List Char) (supports : List Support) :
    (supports.foldl (putLinks addresses) cs).length =
      cs.length + (supports.map fun s => (citation addresses s).length).sum := by
  induction supports generalizing cs with
  | nil => rfl
  | cons s rest ih =>
    have hput : (putLinks addresses cs s).length = cs.length + (citation addresses s).length := by
      simp only [putLinks, insertAt, cutAt, List.length_append, List.length_take, List.length_drop]
      omega
    rw [List.foldl_cons, ih, hput, List.map_cons, List.sum_cons, Nat.add_assoc]

theorem linkAt?_writtenOut (addresses : List (Option String)) {n : Int} (hn : 0 ≤ n) :
    addresses[n.toNat]? = some none ∧ linkAt? addresses n = none ∧ linkAt? (writtenOut addresses) n = some (link n "None") ∨
      addresses[n.toNat]? ≠ some none ∧ linkAt? (writtenOut addresses) n = linkAt? addresses n := by
  rw [linkAt?_of_nonneg hn, linkAt?_of_nonneg hn, writtenOut, List.getElem?_map]
  rcases addresses[n.toNat]? with _ | _ | a
  · exact .inr ⟨by simp, rfl⟩
  · exact .inl ⟨rfl, rfl, rfl⟩
  · exact .inr ⟨by simp, rfl⟩

theorem linkLength_writtenOut (addresses : List (Option String)) {n : Int} (hn : 0 ≤ n) :
    linkLength addresses n ≤ linkLength (writtenOut addresses) n ∧
      (addresses[n.toNat]? = some none → linkLength addresses n < linkLength (writtenOut addresses) n) := by
  unfold linkLength
  rcases linkAt?_writtenOut addresses hn with ⟨-, hnone, hsome⟩ | ⟨hne, heq⟩
  · simp [hnone, hsome]
  · simp [heq, hne]

/-- A source without an address makes the links of its support longer when it is written out. -/
theorem length_citation_writtenOut (addresses : List (Option String)) {s : Support} (hsources : ∀ n ∈ s.sources, 0 ≤ n) :
    (citation addresses s).length ≤ (citation (writtenOut addresses) s).length ∧
      ((∃ n ∈ s.sources, addresses[n.toNat]? = some none) →
        (citation addresses s).length < (citation (writtenOut addresses) s).length) := by
  have hle : ∀ n ∈ s.sources, linkLength addresses n ≤ linkLength (writtenOut addresses) n :=
    fun n hn => (linkLength_writtenOut addresses (hsources n hn)).1
  rw [length_citation, length_citation]
  refine ⟨Nat.sub_le_sub_right (List.sum_le_sum hle) 2, fun ⟨n, hn, hmissing⟩ => ?_⟩
  have hlt := List.sum_lt_sum _ _ hle ⟨n, hn, (linkLength_writtenOut addresses (hsources n hn)).2 hmissing⟩
  have hlong : linkLength (writtenOut addresses) n ≤ (s.sources.map (linkLength (writtenOut addresses))).sum :=
    List.le_sum_of_mem (List.mem_map_of_mem hn)
  have hpos : 2 < linkLength (writtenOut addresses) n := by
    rcases linkAt?_writtenOut addresses (hsources n hn) with ⟨-, -, hsome⟩ | ⟨hne, -⟩
    · have hclose : (")" : String).length = 1 := rfl
      rw [linkLength, hsome, Option.elim_some, link, String.length_append, hclose]
      omega
    · exact absurd hmissing hne
  omega

/-- A reply and its metadata, with no attribute missing, give a text the same links exactly if every source that a support
names has an address, if it is there. A reply's text with a source that has none is longer. -/
theorem citeReply_agrees_iff (hreply : Carries reply text metadata) (hwhole : IsWhole metadata)
    (h : Grounds metadata supports addresses) (htext : text ≠ "") (hsources : ∀ s ∈ supports, ∀ n ∈ s.sources, 0 ≤ n) :
    (∃ cited, citeReply reply = .ok cited ∧ citeFrom text metadata = .ok cited) ↔
      ∀ s ∈ supports, ∀ n ∈ s.sources, addresses[n.toNat]? ≠ some none := by
  have hthere (addresses : List (Option String)) : ∀ s ∈ supports, ∀ n ∈ s.sources, -(addresses.length : Int) ≤ n := by
    intro s hs n hn
    have := hsources s hs n hn
    omega
  have hwritten := (citeReply_eq hreply hwhole h htext).trans (cite_eq_foldl (hthere _) text)
  have hparts := citeFrom_eq_foldl h htext fun _ => hthere _
  constructor
  · rintro ⟨cited, hcited, hcited'⟩ s hs n hn hmissing
    have hsame := Except.ok.inj ((hwritten.symm.trans hcited).trans (hcited'.symm.trans hparts))
    have hlengths := congrArg List.length (String.ofList_injective hsame)
    rw [length_foldl_putLinks, length_foldl_putLinks] at hlengths
    have hlonger := List.sum_lt_sum (fun s => (citation addresses s).length)
      (fun s => (citation (writtenOut addresses) s).length)
      (fun s hs => (length_citation_writtenOut addresses (hsources s (mem_lastFirst.1 hs))).1)
      ⟨s, mem_lastFirst.2 hs, (length_citation_writtenOut addresses (hsources s hs)).2 ⟨n, hn, hmissing⟩⟩
    omega
  · intro hlinked
    have hput : ∀ cs, ∀ s ∈ lastFirst supports, putLinks addresses cs s = putLinks (writtenOut addresses) cs s := by
      intro cs s hs
      have hlink : ∀ n ∈ s.sources, linkAt? addresses n = linkAt? (writtenOut addresses) n := by
        intro n hn
        rcases linkAt?_writtenOut addresses (hsources s (mem_lastFirst.1 hs) n hn) with ⟨hmissing, -⟩ | ⟨-, heq⟩
        · exact absurd hmissing (hlinked s (mem_lastFirst.1 hs) n hn)
        · exact heq.symm
      rw [putLinks, putLinks, citation, citation, List.filterMap_congr hlink]
    exact ⟨_, hwritten, by rw [hparts, List.foldl_ext _ _ _ hput]⟩

/-- Metadata with a source that has no address and that no support names, a source that is not there, and places that
are null or counted from the end. -/
def looseMetadata : Datum :=
  .record [("grounding_supports", .list [
      .record [("segment", .record [("end_index", .int (-1))]), ("grounding_chunk_indices", .list [.int 0])],
      .record [("segment", .record [("end_index", .int 2)]), ("grounding_chunk_indices", .list [.int 0, .int 7])],
      .record [("segment", .null), ("grounding_chunk_indices", .null)]]),
    ("grounding_chunks", .list [
      .record [("web", .record [("uri", .text "u")])],
      .record [("web", .null)]])]

theorem grounds_looseMetadata : Grounds looseMetadata [⟨-1, [0]⟩, ⟨2, [0, 7]⟩, ⟨0, []⟩] [some "u", none] := by
  refine ⟨⟨_, .inl rfl, ?_⟩, ⟨_, .inl rfl, ?_⟩⟩
  · refine .cons ⟨.inl rfl, .inl rfl⟩ (.cons ⟨.inl rfl, .inl rfl⟩ (.cons ⟨?_, ?_⟩ .nil))
    · exact .inr ⟨.inl rfl, rfl⟩
    · exact .inr ⟨.inr rfl, rfl⟩
  · exact .cons ⟨"u", .inl rfl, rfl⟩ (.cons ⟨"", .inr ⟨.inl rfl, rfl⟩, rfl⟩ .nil)

theorem isWhole_looseMetadata : IsWhole looseMetadata := by
  refine ⟨⟨_, rfl⟩, ⟨_, rfl⟩, ?_, ?_, ?_⟩
  · rintro ds ⟨⟩
    simp only [List.forall_mem_cons]
    exact ⟨⟨_, rfl, fun _ => ⟨_, rfl⟩⟩, ⟨_, rfl, fun _ => ⟨_, rfl⟩⟩, ⟨_, rfl, nofun⟩, by simp⟩
  · rintro ds ⟨⟩
    simp only [List.forall_mem_cons]
    exact ⟨⟨_, rfl⟩, ⟨_, rfl⟩, ⟨_, rfl⟩, by simp⟩
  · rintro es ⟨⟩
    simp only [List.forall_mem_cons]
    exact ⟨⟨_, rfl, fun _ => ⟨_, rfl⟩⟩, ⟨_, rfl, nofun⟩, by simp⟩

def looseReply : Datum :=
  .record [("text", .text "It rains."), ("candidates", .list [.record [("grounding_metadata", looseMetadata)]])]

theorem looseReply_agrees :
    citeReply looseReply = .ok "It[1](u) rains[1](u)." ∧
      citeFrom "It rains." looseMetadata = .ok "It[1](u) rains[1](u)." := by
  have hreply : Carries looseReply "It rains." looseMetadata := ⟨rfl, _, _, rfl, rfl⟩
  have hlinked : ∀ s ∈ ([⟨-1, [0]⟩, ⟨2, [0, 7]⟩, ⟨0, []⟩] : List Support), ∀ n ∈ s.sources,
      [some "u", none][n.toNat]? ≠ some none := by decide
  obtain ⟨cited, hwhole, hparts⟩ :=
    (citeReply_agrees_iff hreply isWhole_looseMetadata grounds_looseMetadata (by decide) (by decide)).2 hlinked
  have horder : lastFirst [⟨-1, [0]⟩, ⟨2, [0, 7]⟩, ⟨0, []⟩] = [⟨2, [0, 7]⟩, ⟨0, []⟩, ⟨-1, [0]⟩] := by
    simp [lastFirst, List.mergeSort]
  have hcited : citeFrom "It rains." looseMetadata = .ok "It[1](u) rains[1](u)." := by
    rw [citeFrom_eq_foldl grounds_looseMetadata (by decide) (by decide), horder]
    rfl
  rw [hwhole, ← hparts]
  exact ⟨hcited, hcited⟩

end IssuePlanner.Citation
