import IssuePlanner.Model.Merge
import IssuePlanner.Proofs.Data.Entries

/-! Answers that are dictionaries, merged key by key. Under each key the values of the answers meet one after the other, in
the order of the answers and apart from those under all other keys (`get?_mergeDicts`). What becomes of them depends on
their kinds: lists stay lists, dictionaries stay dictionaries, and other values are listed (`mergeAnswers_merges_keys`). -/

namespace IssuePlanner.Model

variable {key : String}

/-! ### One key -/

/-- What stands under a key after one more value for it. -/
def joined : Option Datum → Datum → Datum
  | none, new => new
  | some old, new => mergeValues old new

theorem mergeEntry_eq_put (es : List (String × Datum)) (e : String × Datum) :
    mergeEntry es e = Entries.put e.1 (joined (Entries.get? e.1 es) e.2) es := by
  unfold mergeEntry
  cases h : Entries.get? e.1 es with
  | none => rw [Entries.put_of_get?_eq_none h]; rfl
  | some old => rfl

theorem get?_mergeEntry (key : String) (es : List (String × Datum)) (e : String × Datum) :
    Entries.get? key (mergeEntry es e) =
      if e.1 = key then some (joined (Entries.get? key es) e.2) else Entries.get? key es := by
  rw [mergeEntry_eq_put, Entries.get?_put]
  split_ifs with h
  · rw [h]
  · rfl

/-- One dictionary adds its value of a key to what stands under that key, and nothing to the others. -/
theorem get?_foldl_mergeEntry {d : List (String × Datum)} (h : (Entries.keys d).Nodup) (key : String)
    (es : List (String × Datum)) :
    Entries.get? key (d.foldl mergeEntry es) =
      ((Entries.get? key d).map (joined (Entries.get? key es))).or (Entries.get? key es) := by
  induction d generalizing es with
  | nil => rfl
  | cons e d ih =>
    obtain ⟨hfresh, hd⟩ := List.nodup_cons.1 h
    rw [List.foldl_cons, ih hd, get?_mergeEntry, Entries.get?_cons]
    split_ifs with he
    · subst he
      rw [Entries.get?_eq_none_iff.2 hfresh]
      rfl
    · rfl

/-- The values that dictionaries have under a key, in order. -/
def valuesOf (key : String) (dicts : List (List (String × Datum))) : List Datum :=
  dicts.filterMap (Entries.get? key)

theorem get?_foldl_mergeDicts {dicts : List (List (String × Datum))} (h : ∀ d ∈ dicts, (Entries.keys d).Nodup)
    (key : String) (es : List (String × Datum)) :
    Entries.get? key (dicts.foldl (fun es d => d.foldl mergeEntry es) es) =
      (valuesOf key dicts).foldl (fun old new => some (joined old new)) (Entries.get? key es) := by
  induction dicts generalizing es with
  | nil => rfl
  | cons d dicts ih =>
    rw [List.foldl_cons, ih fun d' hd' => h d' (by simp [hd']), get?_foldl_mergeEntry (h d (by simp)), valuesOf, valuesOf]
    cases hd : Entries.get? key d with
    | none => rw [List.filterMap_cons_none hd]; rfl
    | some v => rw [List.filterMap_cons_some hd]; rfl

theorem nodup_keys_foldl_mergeEntry {es : List (String × Datum)} (h : (Entries.keys es).Nodup)
    (d : List (String × Datum)) : (Entries.keys (d.foldl mergeEntry es)).Nodup := by
  induction d generalizing es with
  | nil => exact h
  | cons e d ih =>
    rw [List.foldl_cons, mergeEntry_eq_put]
    exact ih (Entries.nodup_keys_put h _ _)

theorem nodup_keys_mergeDicts (dicts : List (List (String × Datum))) : (Entries.keys (mergeDicts dicts)).Nodup := by
  have hrun (es : List (String × Datum)) (h : (Entries.keys es).Nodup) :
      (Entries.keys (dicts.foldl (fun es d => d.foldl mergeEntry es) es)).Nodup := by
    induction dicts generalizing es with
    | nil => exact h
    | cons d dicts ih => exact ih _ (nodup_keys_foldl_mergeEntry h d)
  exact hrun [] List.nodup_nil

/-! ### Values of one kind -/

theorem foldl_joined (v : Datum) (vs : List Datum) :
    vs.foldl (fun old new => some (joined old new)) (some v) = some (vs.foldl mergeValues v) := by
  induction vs generalizing v with
  | nil => rfl
  | cons w vs ih => exact ih (mergeValues v w)

theorem get?_mergeDicts {dicts : List (List (String × Datum))} (h : ∀ d ∈ dicts, (Entries.keys d).Nodup) {v : Datum}
    {vs : List Datum} (hvalues : valuesOf key dicts = v :: vs) :
    Entries.get? key (mergeDicts dicts) = some (vs.foldl mergeValues v) := by
  rw [mergeDicts, get?_foldl_mergeDicts h, hvalues, ← foldl_joined]
  rfl

theorem mem_keys_mergeDicts {dicts : List (List (String × Datum))} (h : ∀ d ∈ dicts, (Entries.keys d).Nodup) :
    key ∈ Entries.keys (mergeDicts dicts) ↔ ∃ d ∈ dicts, key ∈ Entries.keys d := by
  have hvalues : valuesOf key dicts ≠ [] ↔ ∃ d ∈ dicts, key ∈ Entries.keys d := by
    simp [valuesOf, ← Entries.isSome_get?_iff, Option.isSome_iff_ne_none]
  rw [← hvalues, ← Entries.isSome_get?_iff]
  cases hv : valuesOf key dicts with
  | nil =>
    rw [mergeDicts, get?_foldl_mergeDicts h, hv]
    simp [Entries.get?]
  | cons v vs => simp [get?_mergeDicts h hv]

theorem foldl_mergeValues_lists (xs : List Datum) (lists : List (List Datum)) :
    (lists.map Datum.list).foldl mergeValues (.list xs) = .list (xs ++ lists.flatten) := by
  induction lists generalizing xs with
  | nil => simp
  | cons ys lists ih =>
    rw [List.map_cons, List.foldl_cons, mergeValues, ih, List.flatten_cons, List.append_assoc]

theorem foldl_mergeValues_dicts (es : List (String × Datum)) (dicts : List (List (String × Datum))) :
    (dicts.map Datum.dict).foldl mergeValues (.dict es) = .dict (dicts.foldl Entries.putAll es) := by
  induction dicts generalizing es with
  | nil => rfl
  | cons d dicts ih => exact ih (Entries.putAll es d)

def isSimple : Datum → Bool
  | .list _ => false
  | .dict _ => false
  | _ => true

theorem mergeValues_list_of_isSimple (xs : List Datum) {v : Datum} (h : isSimple v = true) :
    mergeValues (.list xs) v = .list (xs ++ [v]) := by
  cases v with
  | list => cases h
  | _ => rfl

theorem mergeValues_of_isSimple {v w : Datum} (hv : isSimple v = true) : mergeValues v w = .list [v, w] := by
  cases v with
  | list => cases hv
  | dict => cases hv
  | _ => cases w <;> rfl

/-- The second of two values makes a list of the first one, and from then on values are added to it. -/
theorem foldl_mergeValues_simple {v w : Datum} {vs : List Datum} (hv : isSimple v = true)
    (hvs : ∀ x ∈ vs, isSimple x = true) : (w :: vs).foldl mergeValues v = .list (v :: w :: vs) := by
  have hrun (xs : List Datum) : vs.foldl mergeValues (.list xs) = .list (xs ++ vs) := by
    induction vs generalizing xs with
    | nil => simp
    | cons x vs ih =>
      rw [List.foldl_cons, mergeValues_list_of_isSimple xs (hvs x (by simp)), ih fun y hy => hvs y (by simp [hy]),
        List.append_assoc, List.singleton_append]
  rw [List.foldl_cons, mergeValues_of_isSimple hv, hrun]
  rfl

/-! ### All answers -/

theorem mergeAnswers_map_dict (dicts : List (List (String × Datum))) :
    mergeAnswers true (dicts.map .dict) = .dict (mergeDicts dicts) := by
  have hdicts : (dicts.map Datum.dict).mapM dict? = some dicts := by
    induction dicts with
    | nil => rfl
    | cons d dicts ih => simp [dict?, ih]
  rw [mergeAnswers, if_pos rfl, hdicts]

/-- Dictionaries are merged to one that has the keys of all of them. A value that stands alone under its key is kept,
lists are put one after the other, dictionaries are united with the later ones counting, and two or more values that are
neither are listed in order. -/
theorem mergeAnswers_merges_keys (dicts : List (List (String × Datum))) (h : ∀ d ∈ dicts, (Entries.keys d).Nodup) :
    ∃ es, mergeAnswers true (dicts.map .dict) = .dict es ∧ (Entries.keys es).Nodup ∧
      (∀ key, key ∈ Entries.keys es ↔ ∃ d ∈ dicts, key ∈ Entries.keys d) ∧
      ∀ key,
        (∀ v, valuesOf key dicts = [v] → Entries.get? key es = some v) ∧
        (∀ lists, lists ≠ [] → valuesOf key dicts = lists.map .list →
          Entries.get? key es = some (.list lists.flatten)) ∧
        (∀ inner, inner ≠ [] → valuesOf key dicts = inner.map .dict → (∀ d ∈ inner, (Entries.keys d).Nodup) →
          ∃ union, Entries.get? key es = some (.dict union) ∧ Entries.IsRightUnion inner union) ∧
        (2 ≤ (valuesOf key dicts).length → (∀ v ∈ valuesOf key dicts, isSimple v = true) →
          Entries.get? key es = some (.list (valuesOf key dicts))) := by
  refine ⟨mergeDicts dicts, mergeAnswers_map_dict dicts, nodup_keys_mergeDicts dicts, fun key => mem_keys_mergeDicts h,
    fun key => ⟨fun v hv => ?_, fun lists hne hlists => ?_, fun inner hne hinner hnodup => ?_, fun hlength hsimple => ?_⟩⟩
  · rw [get?_mergeDicts h hv, List.foldl_nil]
  · obtain ⟨xs, lists, rfl⟩ := List.exists_cons_of_ne_nil hne
    rw [get?_mergeDicts h hlists, foldl_mergeValues_lists, List.flatten_cons]
  · obtain ⟨d, inner, rfl⟩ := List.exists_cons_of_ne_nil hne
    refine ⟨inner.foldl Entries.putAll d, ?_, ?_⟩
    · rw [get?_mergeDicts h hinner, foldl_mergeValues_dicts]
    · exact Entries.isRightUnion_foldl_putAll (hnodup d (by simp)) fun d' hd' => hnodup d' (by simp [hd'])
  · rcases hvalues : valuesOf key dicts with _ | ⟨v, _ | ⟨w, vs⟩⟩
    · simp [hvalues] at hlength
    · simp [hvalues] at hlength
    · rw [hvalues] at hsimple
      rw [get?_mergeDicts h hvalues, foldl_mergeValues_simple (hsimple v (by simp)) fun x hx => hsimple x (by simp [hx])]

/-- Two answers with a list, a dictionary and a number under the same keys, and a key of the second one only. -/
def pairOfAnswers : List (List (String × Datum)) :=
  [[("l", .list [.int 1]), ("d", .dict [("x", .int 1), ("y", .null)]), ("n", .int 1)],
   [("n", .text "t"), ("l", .list [.int 2]), ("d", .dict [("x", .int 2)]), ("s", .bool true)]]

/-- Each kind of value is merged in its own way. -/
theorem pairOfAnswers_merged :
    (∀ d ∈ pairOfAnswers, (Entries.keys d).Nodup) ∧
      ∃ es union, mergeAnswers true (pairOfAnswers.map .dict) = .dict es ∧
        Entries.get? "l" es = some (.list [.int 1, .int 2]) ∧ Entries.get? "d" es = some (.dict union) ∧
        Entries.get? "x" union = some (.int 2) ∧ Entries.get? "y" union = some .null ∧
        Entries.get? "n" es = some (.list [.int 1, .text "t"]) ∧ Entries.get? "s" es = some (.bool true) := by
  have hkeys : ∀ d ∈ pairOfAnswers, (Entries.keys d).Nodup := by decide
  obtain ⟨es, hmerged, -, -, hvalues⟩ := mergeAnswers_merges_keys pairOfAnswers hkeys
  obtain ⟨union, hunion, hright⟩ := (hvalues "d").2.2.1 [[("x", .int 1), ("y", .null)], [("x", .int 2)]] (by simp) rfl
    (by decide)
  refine ⟨hkeys, es, union, hmerged, ?_, hunion, ?_, ?_, ?_, ?_⟩
  · exact (hvalues "l").2.1 [[.int 1], [.int 2]] (by simp) rfl
  · rw [hright.last]
    rfl
  · rw [hright.last]
    rfl
  · exact (hvalues "n").2.2.2 (by decide) (by decide)
  · exact (hvalues "s").1 (.bool true) rfl

end IssuePlanner.Model
