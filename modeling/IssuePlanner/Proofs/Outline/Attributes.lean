import IssuePlanner.Proofs.Outline.PublicApi
import Mathlib.Data.List.Nodup

/-! How often a class lists its attributes. Every public name that the body declares is listed in order, and nothing
else. But an enumeration lists its values, which are in upper case, a second time behind all others. So the attributes of
a class are listed once exactly if it has no such values (`attributes_listed_once_iff`). -/

namespace IssuePlanner.Outline.Script

variable {bases : List Expr} {body : List Stmt}

/-- The name of an entry in a list of attributes, as a reader of the outline takes it. -/
def entryName (entry : String) : String := (declaration ("    " ++ entry)).name

/-- The public names that the body of a class declares, in order. -/
def publicNames (body : List Stmt) : List String := (body.filterMap declaredName?).filter (!isPrivate ·)

/-- The values of an enumeration: the public names in upper case that its body assigns. Other classes have none. -/
def enumValues (bases : List Expr) (body : List Stmt) : List String :=
  if bases.any isEnumBase then
    (body.filterMap assignedName?).filter fun x => !isPrivate x && Text.isUpperText x.toList
  else []

theorem map_entryName_attributes (hnamed : ∀ s ∈ body, s.WellNamed) (bases : List Expr) :
    (attributes bases body).map entryName = publicNames body ++ enumValues bases body := by
  have hread := congrArg (List.map Declaration.name) (map_attributes hnamed bases)
  rw [List.map_map, List.map_map, List.map_map] at hread
  exact hread.trans (List.map_id _)

theorem assignedNames_sublist (body : List Stmt) :
    (body.filterMap assignedName?).Sublist (body.filterMap declaredName?) := by
  have hsame (s : Stmt) : assignedName? s = none ∨ assignedName? s = declaredName? s := by
    unfold assignedName?
    split
    · exact .inr rfl
    · exact .inl rfl
  induction body with
  | nil => exact .slnil
  | cons s body ih =>
    rcases hsame s with hnone | heq
    · rw [List.filterMap_cons_none hnone]
      cases hdeclared : declaredName? s with
      | none => rwa [List.filterMap_cons_none hdeclared]
      | some x =>
        rw [List.filterMap_cons_some hdeclared]
        exact ih.cons x
    · cases hdeclared : declaredName? s with
      | none => rwa [List.filterMap_cons_none hdeclared, List.filterMap_cons_none (heq.trans hdeclared)]
      | some x =>
        rw [List.filterMap_cons_some hdeclared, List.filterMap_cons_some (heq.trans hdeclared)]
        exact ih.cons_cons x

theorem enumValues_sublist (bases : List Expr) (body : List Stmt) :
    (enumValues bases body).Sublist (publicNames body) := by
  unfold enumValues
  split_ifs
  · have hpublic : (body.filterMap assignedName?).filter (fun x => !isPrivate x && Text.isUpperText x.toList) =
        ((body.filterMap assignedName?).filter (!isPrivate ·)).filter fun x => Text.isUpperText x.toList := by
      rw [List.filter_filter]
      exact List.filter_congr fun x _ => Bool.and_comm _ _
    rw [hpublic]
    exact List.filter_sublist.trans ((assignedNames_sublist body).filter _)
  · exact List.nil_sublist _

theorem nodup_append_of_sublist_iff {xs ys : List String} (hxs : xs.Nodup) (hys : ys.Sublist xs) :
    (xs ++ ys).Nodup ↔ ys = [] := by
  constructor
  · intro h
    have hdisjoint := List.disjoint_of_nodup_append h
    exact List.eq_nil_iff_forall_not_mem.2 fun y hy => hdisjoint (hys.subset hy) hy
  · rintro rfl
    rwa [List.append_nil]

/-- If a body declares different names, a class lists each public name once, or twice if it is a value of an enumeration,
and nothing else. So its names are listed once, and in order, exactly if it has no values of an enumeration. -/
theorem attributes_listed_once_iff (hnamed : ∀ s ∈ body, s.WellNamed) (hdistinct : (body.filterMap declaredName?).Nodup) :
    (((attributes bases body).map entryName).Nodup ↔ enumValues bases body = []) ∧
      ((attributes bases body).map entryName = publicNames body ↔ enumValues bases body = []) ∧
      (∀ x ∈ publicNames body,
        ((attributes bases body).map entryName).count x = if x ∈ enumValues bases body then 2 else 1) ∧
      ∀ x ∈ (attributes bases body).map entryName, x ∈ publicNames body := by
  have hpublic : (publicNames body).Nodup := hdistinct.filter _
  have hvalues := enumValues_sublist bases body
  rw [map_entryName_attributes hnamed]
  refine ⟨nodup_append_of_sublist_iff hpublic hvalues, ?_, fun x hx => ?_, fun x hx => ?_⟩
  · exact List.append_right_eq_self
  · rw [List.count_append, List.count_eq_one_of_mem hpublic hx]
    split_ifs with hvalue
    · rw [List.count_eq_one_of_mem (hpublic.sublist hvalues) hvalue]
    · rw [List.count_eq_zero_of_not_mem hvalue]
  · rcases List.mem_append.1 hx with hx | hx
    · exact hx
    · exact hvalues.subset hx

def colourBody : List Stmt := [.assign [.name "RED"], .annotate (.name "hue") (.name "int"), .assign [.name "_code"]]

/-- The colour is listed in front of the hue and behind it, unless the class is no enumeration. -/
theorem colour_listed_twice :
    attributes [.name "Enum"] colourBody = ["RED", "hue: int", "RED"] ∧
      ¬ ((attributes [.name "Enum"] colourBody).map entryName).Nodup ∧
      (attributes [.name "Flag"] colourBody).map entryName = ["RED", "hue"] := by
  have hnamed : ∀ s ∈ colourBody, s.WellNamed := by
    simp only [colourBody, List.forall_mem_cons, List.not_mem_nil, false_imp_iff, implies_true, and_true]
    refine ⟨.assign ?_, .annotate (Text.isWord_of_all (by decide)), .assign ?_⟩
    · exact List.forall_mem_singleton.2 (Text.isWord_of_all (by decide))
    · exact List.forall_mem_singleton.2 (Text.isWord_of_all (by decide))
  have hdistinct : (colourBody.filterMap declaredName?).Nodup := by decide
  refine ⟨by decide +kernel, fun h => ?_, ?_⟩
  · exact absurd ((attributes_listed_once_iff hnamed hdistinct).1.1 h) (by decide +kernel)
  · exact (attributes_listed_once_iff hnamed hdistinct).2.1.2 rfl

end IssuePlanner.Outline.Script
