import IssuePlanner.Proofs.Session.Frame

/-! What a session files: the commands about issues that it has given. An action is `Quiet` if it gives none and leaves
alone what the issue program will answer, and `Mute` if it gives no commands at all. It `Spares` issues if it neither
creates nor edits one; it may comment. -/

namespace IssuePlanner

/-- A command about an issue: what is to be done with it, and the further arguments. -/
abbrev IssueCommand := String × List Arg

/-- The command about an issue that arguments of the issue program make. -/
def issueCommand? : List Arg → Option IssueCommand
  | .text noun :: .text verb :: args => if noun = "issue" then some (verb, args) else none
  | _ => none

def Event.issueCommand? : Event → Option IssueCommand
  | .command .git _ => none
  | .command _ args => IssuePlanner.issueCommand? args
  | _ => none

/-- The commands about issues that a session has given, in order. -/
def issueCommands (s : Session) : List IssueCommand := s.trace.reverse.filterMap Event.issueCommand?

/-- The arguments of the commands that do one thing. -/
def given (verb : String) (cs : List IssueCommand) : List (List Arg) := (cs.filter (·.1 = verb)).map (·.2)

@[simp] theorem given_append (verb : String) (as bs : List IssueCommand) :
    given verb (as ++ bs) = given verb as ++ given verb bs := by
  simp [given]

/-- The commands that create an issue or edit one. -/
def posts (cs : List IssueCommand) : List IssueCommand := cs.filter fun c => c.1 = "create" || c.1 = "edit"

@[simp] theorem posts_append (as bs : List IssueCommand) : posts (as ++ bs) = posts as ++ posts bs := by
  simp [posts]

@[simp] theorem given_create_posts (cs : List IssueCommand) : given "create" (posts cs) = given "create" cs := by
  rw [given, posts, List.filter_filter, given]
  refine congrArg (List.map _) (List.filter_congr fun c _ => ?_)
  by_cases hc : c.1 = "create"
  · simp [hc]
  · simp [hc]

theorem issueCommands_record (e : Event) (s : Session) :
    issueCommands { s with trace := e :: s.trace } = issueCommands s ++ e.issueCommand?.toList := by
  cases h : e.issueCommand? with
  | none => simp [issueCommands, h]
  | some c => simp [issueCommands, h]

/-- `P` holds of the commands that were given since a session. -/
def Since (s : Session) (P : List IssueCommand → Prop) (s' : Session) : Prop :=
  ∃ new, issueCommands s' = issueCommands s ++ new ∧ P new

theorem Since.of_eq {s s' : Session} {P : List IssueCommand → Prop} (h : issueCommands s' = issueCommands s) (hP : P []) :
    Since s P s' :=
  ⟨[], by rw [h, List.append_nil], hP⟩

theorem Since.congr {s s' t : Session} {P : List IssueCommand → Prop} (h : Since s P s')
    (ht : issueCommands t = issueCommands s') : Since s P t := by
  obtain ⟨new, hnew, hP⟩ := h
  exact ⟨new, ht.trans hnew, hP⟩

theorem Since.rebase {s t s' : Session} {P : List IssueCommand → Prop} (h : Since s P s')
    (ht : issueCommands s = issueCommands t) : Since t P s' := by
  obtain ⟨new, hnew, hP⟩ := h
  exact ⟨new, ht ▸ hnew, hP⟩

theorem Since.mono {s s' : Session} {P Q : List IssueCommand → Prop} (h : Since s P s') (hPQ : ∀ new, P new → Q new) :
    Since s Q s' := by
  obtain ⟨new, hnew, hP⟩ := h
  exact ⟨new, hnew, hPQ new hP⟩

theorem Since.append {s s' t : Session} {P Q : List IssueCommand → Prop} {cs : List IssueCommand} (h : Since s P s')
    (ht : issueCommands t = issueCommands s' ++ cs) (hPQ : ∀ new, P new → Q (new ++ cs)) : Since s Q t := by
  obtain ⟨new, hnew, hP⟩ := h
  exact ⟨new ++ cs, by rw [ht, hnew, List.append_assoc], hPQ new hP⟩

def Rule.unspent (r : Rule) : Rule := { r with uses := none }

theorem Rule.take?_some {args : List Arg} {rules rules' : List Rule} {r : Rule}
    (h : Rule.take? args rules = some (r, rules')) :
    r ∈ rules ∧ r.answers args = true ∧ rules'.map Rule.unspent = rules.map Rule.unspent := by
  induction rules generalizing rules' with
  | nil => cases h
  | cons q rules ih =>
    unfold Rule.take? at h
    split at h
    · next hq =>
      cases h
      exact ⟨by simp, hq, rfl⟩
    · obtain ⟨⟨found, rest⟩, hrest, heq⟩ := Option.map_eq_some_iff.1 h
      cases heq
      obtain ⟨hmem, hanswers, hunspent⟩ := ih hrest
      exact ⟨List.mem_cons_of_mem _ hmem, hanswers, by simp [hunspent]⟩

def Channel.runner : Channel → Runner
  | .program => .gh
  | .function => .function

theorem Channel.runner_ne_git (channel : Channel) : channel.runner ≠ .git := by
  cases channel <;> decide

namespace Action

variable {α : Type} {s : Session}

/-! ### Quiet actions -/

/-- What stands in a session, and everything that concerns issues. -/
structure Bearing where
  standing : Standing
  gh : List Rule
  commands : List IssueCommand

def bearing (s : Session) : Bearing := ⟨standing s, s.gh, issueCommands s⟩

/-- The action does nothing but talk, and not about issues. -/
abbrev Quiet (act : Action α) : Prop := Preserves bearing act

theorem Quiet.commands {act : Action α} (h : Quiet act) : Preserves issueCommands act := h.comp Bearing.commands

theorem Quiet.steady {act : Action α} (h : Quiet act) : Steady act := h.comp Bearing.standing

/-- The action talks to models and the client, and to no program. -/
abbrev Mute (act : Action α) : Prop := Preserves (fun s => (bearing s, s.git)) act

theorem Mute.quiet {act : Action α} (h : Mute act) : Quiet act := h.comp Prod.fst

theorem Mute.steady {act : Action α} (h : Mute act) : Steady act := h.quiet.steady

theorem mute_record {e : Event} (h : e.issueCommand? = none) : Mute (record e) := by
  refine .modify fun s => ?_
  rw [bearing, issueCommands_record, h, Option.toList_none, List.append_nil]
  rfl

theorem quiet_record {e : Event} (h : e.issueCommand? = none) : Quiet (record e) := (mute_record h).quiet

theorem quiet_print (line : String) : Quiet (print line) := quiet_record rfl

theorem logless_bearing : Logless bearing := fun s _ _ => quiet_record rfl s

theorem mute_log (level message : String) : Mute (log level message) :=
  .bind .get fun _ => .ite (mute_record rfl) (.pure _)

theorem quiet_log (level message : String) : Quiet (log level message) := (mute_log _ _).quiet

theorem mute_info (message : String) : Mute (info message) := mute_log _ _

theorem quiet_info (message : String) : Quiet (info message) := quiet_log _ _

theorem quiet_later (message : String) : Quiet (later message) :=
  .bind .get fun _ => .ite (.modify fun _ => rfl) (.pure _)

theorem quiet_now : Quiet now := fun _ => rfl

theorem quiet_answerGit (args : List Arg) : Quiet (answerGit args) := by
  refine (quiet_record rfl).bind fun _ s => ?_
  rw [perform_bind, perform_get, andThen_ok]
  split
  · rfl
  · rfl

theorem quiet_git (args : List String) : Quiet (git args) :=
  (quiet_answerGit _).bind fun _ => .ite (.throw _)
    (.ite (.bind (.decode _) fun _ => .throw _) (.bind (.decode _) fun _ => .pure _))

/-! ### Actions that comment -/

/-- The action may comment on issues, but does nothing else with them. -/
def Comments (act : Action α) : Prop := ∀ s, Since s (fun cs => ∀ c ∈ cs, c.1 = "comment") (perform act s).2

theorem given_of_forall_comment {cs : List IssueCommand} (h : ∀ c ∈ cs, c.1 = "comment") {verb : String}
    (hverb : verb ≠ "comment") : given verb cs = [] := by
  rw [given, List.map_eq_nil_iff, List.filter_eq_nil_iff]
  intro c hc
  simpa [h c hc] using hverb.symm

theorem Quiet.comments {act : Action α} (h : Quiet act) : Comments act := fun s => .of_eq (h.commands s) (by simp)

protected theorem Comments.pure (a : α) : Comments (pure a) := fun _ => .of_eq rfl (by simp)

protected theorem Comments.bind {β : Type} {act : Action α} {f : α → Action β} (h : Comments act)
    (hf : ∀ a, Comments (f a)) : Comments (act >>= f) := by
  intro s
  refine Ends.snd (P := Since s fun cs => ∀ c ∈ cs, c.1 = "comment") ((Ends.of_snd (h s)).bind fun a t ht => .of_snd ?_)
  obtain ⟨cs, hcs, hcomments⟩ := hf a t
  refine ht.append hcs fun new hnew c hc => ?_
  exact (List.mem_append.1 hc).elim (hnew c) (hcomments c)

protected theorem Comments.ite {c : Prop} [Decidable c] {a b : Action α} (ha : Comments a) (hb : Comments b) :
    Comments (if c then a else b) := by
  split
  · exact ha
  · exact hb

/-! ### Commands for the issue program -/

theorem answerGh_spends (runner : Runner) (args : List Arg) (s : Session) :
    let s' := (perform (answerGh runner args) s).2
    standing s' = standing s ∧ s'.gh.map Rule.unspent = s.gh.map Rule.unspent ∧
      (runner ≠ .git → issueCommands s' = issueCommands s ++ (issueCommand? args).toList) := by
  have hcommand (runner : Runner) (h : runner ≠ .git) (gh : List Rule) :
      issueCommands { s with gh, trace := .command runner args :: s.trace } =
        issueCommands s ++ (issueCommand? args).toList := by
    have hevent : (Event.command runner args).issueCommand? = issueCommand? args := by
      cases runner with
      | git => exact absurd rfl h
      | gh => rfl
      | function => rfl
    rw [← hevent]
    exact issueCommands_record _ { s with gh }
  simp only [answerGh, perform_bind, perform_get, andThen_ok]
  cases htake : Rule.take? args s.gh with
  | none => exact ⟨rfl, rfl, fun h => hcommand runner h s.gh⟩
  | some found =>
    obtain ⟨r, rules⟩ := found
    refine ⟨rfl, (Rule.take?_some htake).2.2, fun h => hcommand _ ?_ rules⟩
    split
    · decide
    · exact h

theorem issueCommands_answerGh {runner : Runner} {args : List Arg} {c : IssueCommand} (hrunner : runner ≠ .git)
    (hc : issueCommand? args = some c) (s : Session) :
    issueCommands (perform (answerGh runner args) s).2 = issueCommands s ++ [c] := by
  rw [(answerGh_spends runner args s).2.2 hrunner, hc]
  rfl

theorem steady_answerGh (runner : Runner) (args : List Arg) : Steady (answerGh runner args) :=
  fun s => (answerGh_spends runner args s).1

theorem snd_gh (args : List Arg) (s : Session) : (perform (gh args) s).2 = (perform (answerGh .gh args) s).2 := by
  have hrest (r : Rule) : Preserves id (if r.missing then throw .issueToolMissing
      else if r.code ≠ 0 then (do throw (.issueToolFailed (Text.trim (← decode r.stderr))))
      else (do return Text.trim (← decode r.stdout)) : Action String) :=
    .ite (.throw _) (.ite (.bind (.decode _) fun _ => .throw _) (.bind (.decode _) fun _ => .pure _))
  rw [gh, perform_bind]
  rcases perform (answerGh .gh args) s with ⟨e | r, s'⟩
  · rfl
  · exact hrest r s'

theorem snd_standIn (args : List Arg) (s : Session) :
    (perform (standIn args) s).2 = (perform (answerGh .function args) s).2 := by
  have hrest (r : Rule) : Preserves id (if r.missing then throw (.programMissing "gh")
      else if r.code ≠ 0 then (do throw (.issueToolFailed (← decode r.stderr)))
      else decode r.stdout : Action String) :=
    .ite (.throw _) (.ite (.bind (.decode _) fun _ => .throw _) (.decode _))
  rw [standIn, perform_bind]
  rcases perform (answerGh .function args) s with ⟨e | r, s'⟩
  · rfl
  · exact hrest r s'

theorem snd_issueCommand (channel : Channel) (args : List Arg) (s : Session) :
    (perform (issueCommand channel args) s).2 = (perform (answerGh channel.runner args) s).2 := by
  cases channel with
  | program => exact snd_gh args s
  | function =>
    rw [issueCommand, perform_tryCatch, Channel.runner, ← snd_standIn]
    rcases perform (standIn args) s with ⟨e | a, s'⟩
    · rw [orElse_error]
      split
      · rfl
      · rfl
    · rfl

/-! ### Actions that spare issues -/

/-- What stands in a session, the rules of the issue program before their use, and the commands that have created and
edited issues. -/
structure Filing where
  standing : Standing
  rules : List Rule
  posts : List IssueCommand

def filing (s : Session) : Filing := ⟨standing s, s.gh.map Rule.unspent, posts (issueCommands s)⟩

/-- The action does nothing but talk, and neither creates nor edits an issue. -/
abbrev Spares (act : Action α) : Prop := Preserves filing act

theorem Quiet.spares {act : Action α} (h : Quiet act) : Spares act :=
  h.comp fun b => Filing.mk b.standing (b.gh.map Rule.unspent) (posts b.commands)

theorem Spares.steady {act : Action α} (h : Spares act) : Steady act := h.comp Filing.standing

/-- Arguments that create and edit no issue. -/
def IsSparing (args : List Arg) : Prop :=
  ∀ verb rest, issueCommand? args = some (verb, rest) → verb ≠ "create" ∧ verb ≠ "edit"

theorem spares_answerGh {runner : Runner} {args : List Arg} (hrunner : runner ≠ .git) (h : IsSparing args) :
    Spares (answerGh runner args) := by
  intro s
  obtain ⟨hstanding, hrules, hcommands⟩ := answerGh_spends runner args s
  simp only [filing, hstanding, hrules, hcommands hrunner, posts_append]
  cases hc : issueCommand? args with
  | none => simp [posts]
  | some c =>
    obtain ⟨hcreate, hedit⟩ := h c.1 c.2 hc
    simp [posts, hcreate, hedit]

theorem spares_gh {args : List Arg} (h : IsSparing args) : Spares (gh args) := fun s => by
  rw [snd_gh]
  exact spares_answerGh (by decide) h s

theorem spares_standIn {args : List Arg} (h : IsSparing args) : Spares (standIn args) := fun s => by
  rw [snd_standIn]
  exact spares_answerGh (by decide) h s

theorem steady_gh (args : List Arg) : Steady (gh args) := fun s => by
  rw [snd_gh]
  exact steady_answerGh .gh args s

theorem steady_standIn (args : List Arg) : Steady (standIn args) := fun s => by
  rw [snd_standIn]
  exact steady_answerGh .function args s

theorem steady_issueCommand (channel : Channel) (args : List Arg) : Steady (issueCommand channel args) := fun s => by
  rw [snd_issueCommand]
  exact steady_answerGh channel.runner args s

end Action

end IssuePlanner
