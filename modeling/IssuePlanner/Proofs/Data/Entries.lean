import IssuePlanner.Data.Basic
import Mathlib.Tactic.Common

/-! Writing entries. A key is read as it was written last, and every other key as before (`get?_put`); no key stands
twice (`nodup_keys_put`). Dictionaries that are written one after the other are united, and under each key the last one
counts (`isRightUnion_foldl_putAll`). -/

namespace IssuePlanner.Entries

variable {α : Type}

theorem get?_put_of_ne {key other : String} (h : other ≠ key) (value : α) (es : List (String × α)) :
    get? key (put other value es) = get? key es := by
  induction es with
  | nil => simp [put, get?, h]
  | cons e es ih =>
    by_cases he : e.1 = other
    · simp [put, get?, he, h]
    · unfold get? at ih
      by_cases hk : e.1 = key
      · subst hk
        simp [put, get?, he]
      · simp [put, get?, he, hk, ih]

theorem get?_put (key other : String) (value : α) (es : List (String × α)) :
    get? key (put other value es) = if other = key then some value else get? key es := by
  by_cases h : other = key
  · rw [if_pos h, h, get?_put_self]
  · rw [if_neg h, get?_put_of_ne h]

theorem mem_of_mem_put {e : String × α} {key : String} {value : α} {es : List (String × α)}
    (h : e ∈ put key value es) : e ∈ es ∨ e = (key, value) := by
  induction es with
  | nil => exact .inr (by simpa [put] using h)
  | cons a es ih =>
    rw [put] at h
    split at h
    · rcases List.mem_cons.1 h with rfl | h
      · exact .inr rfl
      · exact .inl (List.mem_cons_of_mem a h)
    · rcases List.mem_cons.1 h with rfl | h
      · exact .inl List.mem_cons_self
      · exact (ih h).imp_left (List.mem_cons_of_mem a)

theorem nodup_keys_put {es : List (String × α)} (h : (keys es).Nodup) (key : String) (value : α) :
    (keys (put key value es)).Nodup := by
  rw [keys_put]
  split
  · exact h
  · next hkey => exact List.nodup_append.2 ⟨h, List.pairwise_singleton _ key, by grind⟩

theorem get?_putAll {key : String} {new : List (String × α)} (h : get? key new = none)
    (es : List (String × α)) : get? key (putAll es new) = get? key es := by
  induction new generalizing es with
  | nil => rfl
  | cons e new ih =>
    have hne : e.1 ≠ key := by
      rintro rfl
      simp [get?] at h
    have hnew : get? key new = none := by simpa [get?, hne] using h
    rw [putAll, List.foldl_cons]
    exact (ih hnew _).trans (get?_put_of_ne hne e.2 es)

theorem get?_append_of_none {key : String} {as bs : List (String × α)} (ha : get? key as = none)
    (hb : get? key bs = none) : get? key (as ++ bs) = none := by
  simp only [get?, Option.map_eq_none_iff, List.find?_append] at ha hb ⊢
  rw [ha, hb]
  rfl

/-! ### Dictionaries written one after the other -/

section Union

variable {key : String} {es : List (String × α)}

theorem get?_cons (key : String) (e : String × α) (es : List (String × α)) :
    get? key (e :: es) = if e.1 = key then some e.2 else get? key es := by
  by_cases h : e.1 = key <;> simp [get?, h]

theorem isSome_get?_iff : (get? key es).isSome ↔ key ∈ keys es := by
  simp [get?, keys]

theorem get?_eq_none_iff : get? key es = none ↔ key ∉ keys es := by
  rw [← isSome_get?_iff, Option.not_isSome_iff_eq_none]

theorem put_of_get?_eq_none (h : get? key es = none) (value : α) : put key value es = es ++ [(key, value)] := by
  induction es with
  | nil => rfl
  | cons e es ih =>
    rw [get?_cons] at h
    split_ifs at h with he
    simp [put, he, ih h]

/-- Of two values under a key the one that is written later counts. -/
theorem get?_putAll_of_nodup {new : List (String × α)} (h : (keys new).Nodup) (key : String)
    (es : List (String × α)) : get? key (putAll es new) = (get? key new).or (get? key es) := by
  induction new generalizing es with
  | nil => rfl
  | cons e new ih =>
    obtain ⟨hfresh, hnew⟩ := List.nodup_cons.1 h
    have hput : putAll es (e :: new) = putAll (put e.1 e.2 es) new := rfl
    rw [hput, ih hnew, get?_put, get?_cons]
    split_ifs with he
    · subst he
      rw [get?_eq_none_iff.2 hfresh]
      rfl
    · rfl

theorem nodup_keys_putAll (h : (keys es).Nodup) (new : List (String × α)) : (keys (putAll es new)).Nodup := by
  induction new generalizing es with
  | nil => exact h
  | cons e new ih => exact ih (nodup_keys_put h e.1 e.2)

/-- A dictionary holds what others hold, and under each key the value of the last one that has the key. -/
structure IsRightUnion (dicts : List (List (String × α))) (union : List (String × α)) : Prop where
  nodup : (keys union).Nodup
  last : ∀ key, get? key union = (dicts.filterMap (get? key)).getLast?

theorem getLast?_filterMap_cons (key : String) (d : List (String × α)) (dicts : List (List (String × α))) :
    ((d :: dicts).filterMap (get? key)).getLast? = (dicts.filterMap (get? key)).getLast?.or (get? key d) := by
  cases hd : get? key d with
  | none => rw [List.filterMap_cons_none hd, Option.or_none]
  | some v =>
    rw [List.filterMap_cons_some hd, List.getLast?_cons]
    cases (dicts.filterMap (get? key)).getLast? <;> rfl

theorem get?_foldl_putAll {dicts : List (List (String × α))} (h : ∀ d ∈ dicts, (keys d).Nodup) (key : String)
    (es : List (String × α)) :
    get? key (dicts.foldl putAll es) = (dicts.filterMap (get? key)).getLast?.or (get? key es) := by
  induction dicts generalizing es with
  | nil => rfl
  | cons d dicts ih =>
    rw [List.foldl_cons, ih fun d' hd' => h d' (by simp [hd']), get?_putAll_of_nodup (h d (by simp)), ← Option.or_assoc,
      getLast?_filterMap_cons]

theorem isRightUnion_foldl_putAll {dicts : List (List (String × α))} (hes : (keys es).Nodup)
    (h : ∀ d ∈ dicts, (keys d).Nodup) : IsRightUnion (es :: dicts) (dicts.foldl putAll es) := by
  refine ⟨?_, fun key => ?_⟩
  · induction dicts generalizing es with
    | nil => exact hes
    | cons d dicts ih => exact ih (nodup_keys_putAll hes d) fun d' hd' => h d' (by simp [hd'])
  · rw [get?_foldl_putAll h, getLast?_filterMap_cons]

end Union

end IssuePlanner.Entries
