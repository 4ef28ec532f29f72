import IssuePlanner.Proofs.Text.Replace
import IssuePlanner.Proofs.Workplan.Writing
import Mathlib.Logic.Function.Iterate

/-! The title of a workplan through its revisions. A body has its title as a heading, and a revision takes the title from
there without any copy of the mark for headings (`titleOf_issueBody`). So the title is kept exactly if it has no such
copy, and otherwise it gets shorter with each revision as long as there is one (`revisions_keep_title_iff`). -/

namespace IssuePlanner.Workplan

open IssuePlanner.Action

variable {title issue body : String} {channel : Channel} {s : Session}

/-! ### The title in a body -/

structure IsTitle (title : String) : Prop where
  nonempty : title ≠ ""
  trimmed : Text.trim title = title
  oneLine : '\n' ∉ title.toList

/-- A title without the copies of the mark for headings. -/
def recovered (title : String) : String := Text.trim (Text.replace title "# " "")

theorem headingMark_ne_nil : headingMark ≠ [] := by simp [headingMark]

theorem toList_recovered (title : String) :
    (recovered title).toList = Text.strip (Text.replaceAll headingMark [] title.toList) := by
  simp [recovered, Text.trim, Text.replace, headingMark]

theorem splitOn_issueBody (h : '\n' ∉ title.toList) (content : Datum) :
    (Text.splitOn '\n' (issueBody title content).toList).headD [] = headingMark ++ title.toList := by
  have hline : '\n' ∉ headingMark ++ title.toList := by simp [headingMark, h]
  have hbody : (issueBody title content).toList =
      headingMark ++ title.toList ++ '\n' :: '\n' :: content.display.toList := by
    simp [issueBody, headingMark]
  rw [hbody, Text.splitOn_append hline]
  rfl

theorem titleOf_issueBody (h : '\n' ∉ title.toList) (content : Datum) :
    titleOf (issueBody title content) = recovered title := by
  have hstarts : Text.startsWith (headingMark ++ title.toList) headingMark = true := by
    simp [Text.startsWith]
  rw [titleOf, splitOn_issueBody h, if_pos hstarts, Text.replaceAll_append headingMark_ne_nil, List.nil_append,
    ← toList_recovered, String.ofList_toList]

theorem eq_of_issueBody_eq {title' : String} {content content' : Datum} (h : '\n' ∉ title.toList)
    (h' : '\n' ∉ title'.toList) (heq : issueBody title content = issueBody title' content') : title = title' := by
  have hlines : headingMark ++ title.toList = headingMark ++ title'.toList := by
    rw [← splitOn_issueBody h content, heq, splitOn_issueBody h']
  exact String.toList_inj.1 (List.append_cancel_left hlines)

/-! ### Titles that are recovered again and again -/

theorem IsTitle.strip_eq (h : IsTitle title) : Text.strip title.toList = title.toList := by
  have htrimmed := congrArg String.toList h.trimmed
  simpa [Text.trim] using htrimmed

theorem IsTitle.exists_getLast? (h : IsTitle title) :
    ∃ c, title.toList.getLast? = some c ∧ Text.isBlank c = false := by
  cases hlast : title.toList.getLast? with
  | none => exact absurd (by simpa using hlast) h.nonempty
  | some c =>
    rw [← h.strip_eq] at hlast
    exact ⟨c, rfl, Text.not_blank_of_getLast?_strip hlast⟩

theorem IsTitle.getLast?_removeAll (h : IsTitle title) :
    ∃ c, (Text.replaceAll headingMark [] title.toList).getLast? = some c ∧ Text.isBlank c = false := by
  obtain ⟨c, hlast, hc⟩ := h.exists_getLast?
  refine ⟨c, Text.getLast?_removeAll headingMark_ne_nil ?_ hlast, hc⟩
  rintro ⟨⟩
  revert hc
  decide

theorem sublist_recovered (title : String) : (recovered title).toList.Sublist title.toList := by
  rw [toList_recovered]
  exact (Text.strip_isInfix _).sublist.trans (Text.removeAll_sublist headingMark_ne_nil _)

theorem isTitle_recovered (h : IsTitle title) : IsTitle (recovered title) := by
  obtain ⟨c, hlast, hc⟩ := h.getLast?_removeAll
  have hlast' := Text.getLast?_strip hlast hc
  have hstrip := Text.strip_strip (Text.replaceAll headingMark [] title.toList)
  rw [← toList_recovered] at hlast' hstrip
  constructor
  · rintro hempty
    rw [hempty] at hlast'
    cases hlast'
  · rw [Text.trim, hstrip, String.ofList_toList]
  · exact fun hmem => h.oneLine ((sublist_recovered title).subset hmem)

theorem isTitle_iterate (h : IsTitle title) (n : Nat) : IsTitle (Nat.iterate recovered n title) := by
  induction n with
  | zero => exact h
  | succ n ih =>
    rw [Function.iterate_succ_apply']
    exact isTitle_recovered ih

theorem length_iterate_le (title : String) (n : Nat) :
    (Nat.iterate recovered n title).toList.length ≤ title.toList.length := by
  induction n with
  | zero => exact Nat.le_refl _
  | succ n ih =>
    rw [Function.iterate_succ_apply']
    exact (sublist_recovered _).length_le.trans ih

theorem recovered_of_not_isInfix (h : IsTitle title) (hmark : ¬headingMark <:+: title.toList) :
    recovered title = title := by
  rw [← String.toList_inj, toList_recovered, Text.removeAll_of_not_isInfix headingMark_ne_nil hmark, h.strip_eq]

theorem length_recovered_lt (hmark : headingMark <:+: title.toList) :
    (recovered title).toList.length < title.toList.length := by
  rw [toList_recovered]
  exact (Text.strip_isInfix _).length_le.trans_lt (Text.length_removeAll_lt headingMark_ne_nil hmark)

theorem iterate_recovered_eq_iff (h : IsTitle title) (n : Nat) :
    Nat.iterate recovered (n + 1) title = title ↔ ¬headingMark <:+: title.toList := by
  constructor
  · intro heq hmark
    have hlt := length_recovered_lt hmark
    have hle := length_iterate_le (recovered title) n
    rw [← Function.iterate_succ_apply, heq] at hle
    omega
  · intro hmark
    exact Function.iterate_fixed (recovered_of_not_isInfix h hmark) (n + 1)

/-! ### Drafts and revisions -/

/-- The bodies that come from a title: the draft of a workplan, and what a number of revisions made of it, each of them
given the body before. -/
inductive Lineage (title : String) : Nat → String → Prop where
  | draft {channel : Channel} {o : DraftOrder} {s : Session} {body : String} :
      o.title = title → Writes channel (draft channel o) o.issue s body → Lineage title 0 body
  | revise {n : Nat} {former : String} {channel : Channel} {o : RevisionOrder} {s : Session} {body : String} :
      Lineage title n former → o.workplan = .text former → Writes channel (revise channel o) o.issue s body →
        Lineage title (n + 1) body

theorem Lineage.exists_eq (htitle : IsTitle title) {n : Nat} (h : Lineage title n body) :
    ∃ content, body = issueBody (Nat.iterate recovered n title) content := by
  induction h with
  | draft hdraft hwrites =>
    obtain ⟨_, content, rfl, rfl⟩ := (settles_draft _ _ _).exists_of_writes hwrites
    exact ⟨content, by rw [hdraft, Function.iterate_zero_apply]⟩
  | @revise n _ _ _ _ _ _ hworkplan hwrites ih =>
    obtain ⟨former, rfl⟩ := ih
    obtain ⟨_, content, htaken, rfl⟩ := (settles_revise _ _ _).exists_of_writes hwrites
    rw [hworkplan, titleOfBody, titleOf_issueBody (isTitle_iterate htitle n).oneLine] at htaken
    exact ⟨content, by rw [Function.iterate_succ_apply', Except.ok.inj htaken]⟩

theorem exists_lineage (title : String) (n : Nat) : ∃ body, Lineage title n body := by
  induction n with
  | zero =>
    obtain ⟨s, body, hwrites⟩ := exists_writes_draft .program title
    exact ⟨body, .draft rfl hwrites⟩
  | succ n ih =>
    obtain ⟨former, hformer⟩ := ih
    obtain ⟨s, body, hwrites⟩ := exists_writes_revise .program former
    exact ⟨body, .revise hformer rfl hwrites⟩

/-- After any number of revisions the heading is the title without copies of the mark, taken out once for each revision.
So the title that is found in a body, and the heading from the first revision on, is the title exactly if it has no copy
of the mark. -/
theorem revisions_keep_title_iff (htitle : IsTitle title) :
    (∀ n, ∃ body, Lineage title n body) ∧ ∀ n body, Lineage title n body →
      (∃ content, body = issueBody (Nat.iterate recovered n title) content) ∧
      titleOf body = Nat.iterate recovered (n + 1) title ∧
      (titleOf body = title ↔ ¬headingMark <:+: title.toList) ∧
      ((∃ content, body = issueBody title content) ↔ n = 0 ∨ ¬headingMark <:+: title.toList) := by
  refine ⟨exists_lineage title, fun n body h => ?_⟩
  obtain ⟨content, rfl⟩ := h.exists_eq htitle
  have hn := isTitle_iterate htitle n
  have hback : titleOf (issueBody (Nat.iterate recovered n title) content) = Nat.iterate recovered (n + 1) title := by
    rw [titleOf_issueBody hn.oneLine, Function.iterate_succ_apply']
  refine ⟨⟨content, rfl⟩, hback, ?_, ?_⟩
  · rw [hback, iterate_recovered_eq_iff htitle]
  · cases n with
    | zero => exact ⟨fun _ => .inl rfl, fun _ => ⟨content, rfl⟩⟩
    | succ n =>
      rw [← iterate_recovered_eq_iff htitle n]
      constructor
      · rintro ⟨content', heq⟩
        exact .inr (eq_of_issueBody_eq hn.oneLine htitle.oneLine heq)
      · rintro (hzero | hkept)
        · cases hzero
        · exact ⟨content, by rw [hkept]⟩

/-- A title with a number sign at the end of a word loses it in the first revision. -/
theorem revision_loses_number_sign :
    IsTitle "Fix the C# parser" ∧ ∃ body content, Lineage "Fix the C# parser" 1 body ∧
      body = issueBody "Fix the Cparser" content := by
  have htitle : IsTitle "Fix the C# parser" := ⟨by decide, by decide +kernel, by decide +kernel⟩
  obtain ⟨hexists, hbodies⟩ := revisions_keep_title_iff htitle
  obtain ⟨body, hbody⟩ := hexists 1
  obtain ⟨⟨content, hcontent⟩, -⟩ := hbodies 1 body hbody
  have hrecovered : Nat.iterate recovered 1 "Fix the C# parser" = "Fix the Cparser" := by decide +kernel
  rw [hrecovered] at hcontent
  exact ⟨htitle, body, content, hbody, hcontent⟩

end IssuePlanner.Workplan
