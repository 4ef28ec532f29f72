import IssuePlanner.Proofs.Server.Frame
import IssuePlanner.Proofs.Text.Pick

/-! Creating an issue. One command is given, and the address of the new issue is what the issue program prints
(`gives_createSubissue`). The number is read off the address, which finds it if it stands at the end and nowhere else
(`numberIn?_of_isAddress`). -/

namespace IssuePlanner

open IssuePlanner.Action

namespace Issue

/-- The address of an issue with a number: the number stands at the end, and nothing else in the address reads as the
number of an issue. -/
structure IsAddress (url n : String) : Prop where
  form : ∃ owner repo, url = "https://github.com/" ++ owner ++ "/" ++ repo ++ "/issues/" ++ n
  nonempty : n ≠ ""
  digits : ∀ c ∈ n.toList, Text.isDecimal c = true
  once : ∀ front d back, url.toList = front ++ ("/issues/".toList ++ d :: back) → Text.isDecimal d = true →
    d :: back = n.toList

theorem numberIn?_of_isAddress {url n : String} (h : IsAddress url n) : numberIn? url = some n := by
  obtain ⟨owner, repo, hurl⟩ := h.form
  have hlist : url.toList = ("https://github.com/" ++ owner ++ "/" ++ repo).toList ++ ("/issues/".toList ++ n.toList) := by
    simp [hurl]
  have hrun : Text.runAfter? "/issues/".toList Text.isDecimal url.toList = some n.toList := by
    have honly := h.once
    rw [hlist] at honly ⊢
    exact Text.runAfter?_eq_some (by simpa using h.nonempty) h.digits honly
  rw [numberIn?, Text.numberAfter?, hrun, Option.map_some, String.ofList_toList]

/-! ### What the issue program prints -/

/-- A successful creation of an issue may print an address, and this is the first one that it prints. -/
def Prints (s : Session) (url : String) : Prop :=
  ∃ r ∈ s.gh, (∃ args, r.args.map Arg.text <+: .text "issue" :: .text "create" :: args) ∧ r.missing = false ∧
    r.code = 0 ∧ ∃ out rest, Text.Utf8.decode? r.stdout = .ok out ∧
      Text.wordAfter? "https://github.com/" (Text.trim out) = some rest ∧ url = "https://github.com/" ++ rest

/-- Whatever address a successful creation prints, it is that of an issue. -/
def PrintsAddresses (s : Session) : Prop := ∀ url, Prints s url → ∃ n, IsAddress url n

theorem Prints.congr {s s' : Session} {url : String} (h : Prints s url)
    (hrules : s.gh.map Rule.unspent = s'.gh.map Rule.unspent) : Prints s' url := by
  obtain ⟨r, hr, hargs, hmissing, hcode, hout⟩ := h
  have hmem : r.unspent ∈ s'.gh.map Rule.unspent := hrules ▸ List.mem_map_of_mem hr
  obtain ⟨r', hr', heq⟩ := List.mem_map.1 hmem
  simp only [Rule.unspent, Rule.mk.injEq] at heq
  obtain ⟨hargs', hstdout, -, hcode', -, hmissing'⟩ := heq
  exact ⟨r', hr', by rwa [hargs'], by rwa [hmissing'], by rwa [hcode'], by rwa [hstdout]⟩

theorem PrintsAddresses.congr {s s' : Session} (h : PrintsAddresses s)
    (hrules : s.gh.map Rule.unspent = s'.gh.map Rule.unspent) : PrintsAddresses s' :=
  fun url hurl => h url (hurl.congr hrules.symm)

/-- What `gh` gives is the trimmed output of a rule that answers the command and succeeds. -/
theorem exists_of_perform_gh {args : List Arg} {s s' : Session} {answer : String}
    (h : perform (gh args) s = (.ok answer, s')) :
    ∃ r ∈ s.gh, r.answers args = true ∧ r.missing = false ∧ r.code = 0 ∧
      ∃ out, Text.Utf8.decode? r.stdout = .ok out ∧ answer = Text.trim out := by
  obtain ⟨r, s₁, hanswer, h⟩ := exists_of_perform_bind h
  have hcode : r.missing = false ∧ r.code = 0 ∧ ∃ out, Text.Utf8.decode? r.stdout = .ok out ∧ answer = Text.trim out := by
    split at h
    · cases h
    · next hmissing =>
      split at h
      · obtain ⟨_, _, -, h⟩ := exists_of_perform_bind h
        cases h
      · next hcode =>
        obtain ⟨out, s₂, hdecode, h⟩ := exists_of_perform_bind h
        cases h
        refine ⟨by simpa using hmissing, not_not.1 hcode, out, ?_, rfl⟩
        unfold decode at hdecode
        split at hdecode
        · next hout =>
          cases hdecode
          exact hout
        · cases hdecode
  simp only [answerGh, perform_bind, perform_get, andThen_ok] at hanswer
  cases htake : Rule.take? args s.gh with
  | none =>
    rw [htake] at hanswer
    cases hanswer
    exact absurd hcode.2.1 (by decide)
  | some found =>
    obtain ⟨r', rules⟩ := found
    rw [htake] at hanswer
    cases hanswer
    obtain ⟨hmem, hanswers, -⟩ := Rule.take?_some htake
    exact ⟨r, hmem, hanswers, hcode⟩

/-! ### Creating -/

def creations (s : Session) : List (List Arg) := given "create" (issueCommands s)

/-- The jobs to do, the rules of the issue program before their use, and the issues that were created. -/
structure Docket where
  jobs : List Job
  rules : List Rule
  creations : List (List Arg)

def docket (s : Session) : Docket := ⟨s.jobs, s.gh.map Rule.unspent, creations s⟩

def Docket.create (d : Docket) (new : List (List Arg)) : Docket := { d with creations := d.creations ++ new }

@[simp] theorem Docket.create_nil (d : Docket) : d.create [] = d := by
  simp [Docket.create]

theorem preserves_docket {α : Type} {act : Action α} (h : Spares act) : Preserves docket act := by
  intro s
  have hdocket := congrArg (fun f => Docket.mk f.standing.jobs f.rules (given "create" f.posts)) (h s)
  simp only [filing, given_create_posts] at hdocket
  exact hdocket

theorem docket_answerGh {runner : Runner} {args : List Arg} {c : IssueCommand} (hrunner : runner ≠ .git)
    (hc : issueCommand? args = some c) (s : Session) :
    docket (perform (answerGh runner args) s).2 = (docket s).create (given "create" [c]) := by
  obtain ⟨hstanding, hrules, -⟩ := answerGh_spends runner args s
  rw [docket, creations, issueCommands_answerGh hrunner hc, given_append, hrules, show (perform (answerGh runner args) s).2.jobs =
    s.jobs from congrArg Standing.jobs hstanding]
  rfl

/-- At most one issue was created since another session. -/
def CreatedAtMostOne (s s' : Session) : Prop :=
  ∃ new : List (List Arg), new.length ≤ 1 ∧ docket s' = (docket s).create new

theorem createdAtMostOne_of_eq {s s' : Session} (h : docket s' = docket s) : CreatedAtMostOne s s' :=
  ⟨[], by simp, by simp [h]⟩

theorem gives_createSubissue (parent title body : String) (labels : List String) (s : Session) :
    Gives (createSubissue parent title body labels) s
      (fun url s' => Prints s url ∧ ∃ args, docket s' = (docket s).create [args])
      fun _ s' => CreatedAtMostOne s s' := by
  refine Gives.during (Q := fun _ s' => CreatedAtMostOne s s') ?_ fun _ _ h => h
  refine .bind_preserves (preserves_docket (spares_ensureLabels labels)) (fun _ _ => createdAtMostOne_of_eq)
    fun _ s₁ hs₁ => ?_
  let tail := [Arg.text "--title", .text title, .text "--body-file", .file body] ++ labelArgs labels
  have hcreate : docket (perform (gh (.text "issue" :: .text "create" :: tail)) s₁).2 = (docket s).create [tail] := by
    have hcommand : issueCommand? (.text "issue" :: .text "create" :: tail) = some ("create", tail) := rfl
    rw [snd_gh, ← hs₁]
    exact docket_answerGh (show Runner.gh ≠ .git by decide) hcommand s₁
  rcases hgh : perform (gh (.text "issue" :: .text "create" :: tail)) s₁ with ⟨e | answer, s₂⟩
  · rw [hgh] at hcreate
    exact .bind_of_error hgh ⟨[tail], by simp, hcreate⟩
  · rw [hgh] at hcreate
    refine .bind_of_ok hgh ?_
    split
    · exact ⟨[tail], by simp, hcreate⟩
    · next rest hrest =>
      refine .bind_preserves (preserves_docket (spares_commentWithProgram _ _))
        (fun _ _ ht => ⟨[tail], by simp, ht.trans hcreate⟩) fun _ s₃ hs₃ => ⟨?_, tail, hs₃.trans hcreate⟩
      obtain ⟨r, hr, hanswers, hmissing, hcode, out, hout, rfl⟩ := exists_of_perform_gh hgh
      have hprints : Prints s₁ ("https://github.com/" ++ rest) := by
        rw [Rule.answers, Bool.and_eq_true, List.isPrefixOf_iff_prefix] at hanswers
        exact ⟨r, hr, ⟨tail, hanswers.1⟩, hmissing, hcode, out, rest, hout, hrest, rfl⟩
      exact hprints.congr (congrArg Docket.rules hs₁)

end Issue

end IssuePlanner
