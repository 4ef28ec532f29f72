import IssuePlanner.Model.Call
import IssuePlanner.Proofs.Session.Run

/-! The requests in a trace. Sending one request, as often as it takes, leaves a `Block` in the trace: attempts
that carry the same request, with a pause between any two of them. Sending the chunks of a prompt leaves
`Blocks`, one for each chunk in turn, and ends early only in failure. If it succeeds, the requests that stand
at the end of the blocks are those of all chunks in their order (`Blocks.settled_eq`). -/

namespace IssuePlanner

open IssuePlanner.Action

abbrev Sent := Provider × List (String × Datum)

/-- The events leave no mark but messages to the operator. -/
def OnlyNotes (evs : List Event) : Prop := ∀ ev ∈ evs, ∃ level text, ev = .note level text

def Event.request? : Event → Option Sent
  | .request provider params => some (provider, params)
  | _ => none

def requests (evs : List Event) : List Sent := evs.filterMap Event.request?

/-- The state is whether a pause comes before the next request, and the settled requests from here on. -/
def settleStep : Event → Bool × List Sent → Bool × List Sent
  | .request provider params, (paused, qs) => (false, if paused then qs else (provider, params) :: qs)
  | .pause _, (_, qs) => (true, qs)
  | _, acc => acc

/-- The requests among some events, each once: one that is followed by a pause is tried again and does not
count. -/
def settled (evs : List Event) : List Sent := (evs.foldr settleStep (false, [])).2

@[simp] theorem requests_append (as bs : List Event) : requests (as ++ bs) = requests as ++ requests bs :=
  List.filterMap_append

theorem requests_onlyNotes {evs : List Event} (h : OnlyNotes evs) : requests evs = [] := by
  refine List.filterMap_eq_nil_iff.2 fun ev hev => ?_
  obtain ⟨level, text, rfl⟩ := h ev hev
  rfl

theorem foldr_settleStep_onlyNotes {evs : List Event} (h : OnlyNotes evs) (acc : Bool × List Sent) :
    evs.foldr settleStep acc = acc := by
  induction evs with
  | nil => rfl
  | cons ev evs ih =>
    obtain ⟨level, text, rfl⟩ := h ev (by simp)
    rw [List.foldr_cons, ih fun e he => h e (by simp [he])]
    rfl

namespace Model

variable {α : Type}

def SentOnce (q : Sent) (evs : List Event) : Prop :=
  ∃ before after, OnlyNotes before ∧ OnlyNotes after ∧ evs = before ++ .request q.1 q.2 :: after

/-- The events of one attempt at a request: it is sent, or the attempt fails for good before that. -/
def Attempted (q : Sent) (evs : List Event) (out : Except Failure α) : Prop :=
  SentOnce q evs ∨ evs = [] ∧ ∃ f, out = .error f ∧ f.isRetryable = false

/-- The events of sending a request as often as it takes. -/
inductive Block (q : Sent) : List Event → Except Failure α → Prop where
  | unsent {f : Failure} : Block q [] (.error f)
  | last {evs : List Event} {out : Except Failure α} : SentOnce q evs → Block q evs out
  | again (warning : String) (seconds : Nat) {evs rest : List Event} {out : Except Failure α} :
      SentOnce q evs → Block q rest out →
      Block q (evs ++ [.note "warning" warning, .pause seconds] ++ rest) out

theorem SentOnce.requests_eq {q : Sent} {evs : List Event} (h : SentOnce q evs) : requests evs = [q] := by
  obtain ⟨before, after, hb, ha, rfl⟩ := h
  rw [requests_append, requests_onlyNotes hb, List.nil_append]
  show q :: requests after = [q]
  rw [requests_onlyNotes ha]

theorem SentOnce.foldr_settleStep {q : Sent} {evs : List Event} (h : SentOnce q evs) (paused : Bool)
    (qs : List Sent) :
    evs.foldr settleStep (paused, qs) = (false, if paused then qs else q :: qs) := by
  obtain ⟨before, after, hb, ha, rfl⟩ := h
  rw [List.foldr_append, List.foldr_cons, foldr_settleStep_onlyNotes ha]
  exact foldr_settleStep_onlyNotes hb _

theorem Block.requests_subset {q : Sent} {evs : List Event} {out : Except Failure α} (h : Block q evs out) :
    ∀ p ∈ requests evs, p = q := by
  induction h with
  | unsent =>
    intro p hp
    cases hp
  | last hs =>
    intro p hp
    rw [hs.requests_eq] at hp
    exact List.mem_singleton.1 hp
  | again _ _ hs _ ih =>
    intro p hp
    simp only [requests_append, hs.requests_eq, List.mem_append] at hp
    rcases hp with (hp | hp) | hp
    · exact List.mem_singleton.1 hp
    · cases hp
    · exact ih p hp

theorem Block.foldr_settleStep {q : Sent} {evs : List Event} {a : α}
    (h : Block q evs (.ok a : Except Failure α)) (qs : List Sent) :
    evs.foldr settleStep (false, qs) = (false, q :: qs) := by
  generalize hout : (.ok a : Except Failure α) = out at h
  induction h with
  | unsent => cases hout
  | last hs => exact hs.foldr_settleStep false qs
  | again _ _ hs _ ih =>
    rw [List.foldr_append, List.foldr_append, ih hout]
    exact hs.foldr_settleStep true (q :: qs)

theorem Block.mem_requests {q : Sent} {evs : List Event} {a : α}
    (h : Block q evs (.ok a : Except Failure α)) : q ∈ requests evs := by
  generalize hout : (.ok a : Except Failure α) = out at h
  induction h with
  | unsent => cases hout
  | last hs => rw [hs.requests_eq]; exact List.mem_singleton_self q
  | again _ _ _ _ ih =>
    rw [requests_append]
    exact List.mem_append_right _ (ih hout)

/-! ### Trying again -/

theorem Attempted.block {q : Sent} {evs : List Event} {out : Except Failure α} (h : Attempted q evs out) :
    Block q evs out := by
  rcases h with hs | ⟨rfl, f, rfl, -⟩
  · exact .last hs
  · exact .unsent

theorem emits_attempts {q : Sent} {act : Action α} (h : Emits act (Attempted q)) (name : String)
    (left attempt : Nat) : Emits (Retry.attempts name act attempt left) (Block q) := by
  induction left generalizing attempt with
  | zero => exact h.mono fun _ _ => Attempted.block
  | succ left ih =>
    refine h.tryCatch (fun _ _ => Attempted.block) fun f => ?_
    cases hr : f.isRetryable with
    | true =>
      refine (emits_record _).bind (fun _ _ hp => by cases hp.2) fun _ => ?_
      refine (emits_record _).bind (fun _ _ hp => by cases hp.2) fun _ => ?_
      refine (ih (attempt + 1)).mono ?_
      rintro rest out hrest evs2 ⟨rfl, -⟩ evs1 ⟨rfl, -⟩ evs (hs | ⟨-, g, hg, hno⟩)
      · have hblock := Block.again (Retry.warning name "T" attempt f) (Retry.pause attempt) hs hrest
        simpa using hblock
      · cases hg
        rw [hno] at hr
        cases hr
    | false =>
      refine (emits_throw f).mono ?_
      rintro evs' out ⟨rfl, rfl⟩ evs ha
      rw [List.append_nil]
      exact ha.block

theorem emits_retrying {q : Sent} {act : Action α} (h : Emits act (Attempted q)) (name : String) :
    Emits (Retry.retrying name act) (Block q) :=
  emits_attempts h name _ 1

/-! ### One request -/

theorem reads_theManager : Reads theManager := fun s => ⟨s.manager.getD {}, rfl⟩

theorem silent_changeManager (f : Manager → Manager) : Silent (changeManager f) :=
  reads_theManager.silent.bind fun _ _ => rfl

theorem silent_setUsage (u : Option Usage) : Silent (setUsage u) := silent_changeManager _

theorem emits_send (provider : Provider) (params : List (String × Datum)) :
    Emits (send provider params) fun evs _ => evs = [.request provider params] := by
  intro s
  refine ⟨[.request provider params], ?_, rfl⟩
  simp only [send, perform_bind, perform_record, andThen_ok, perform_get]
  cases s.replies with
  | nil => rfl
  | cons reply rest => cases reply <;> rfl

theorem emits_reportingFailure {q : Sent} {act : Action α}
    (h : Emits act fun evs _ => evs = [.request q.1 q.2]) (provider : Provider) :
    Emits (reportingFailure provider act) fun evs _ =>
      ∃ after, OnlyNotes after ∧ evs = .request q.1 q.2 :: after := by
  refine h.tryCatch (fun evs _ he => ⟨[], by simp [OnlyNotes], he⟩) fun e => ?_
  refine (emits_record _).bind (fun _ _ hp => by cases hp.2) fun _ => (emits_throw e).mono ?_
  rintro evs' out ⟨rfl, -⟩ note ⟨rfl, -⟩ evs rfl
  exact ⟨_, by simp [OnlyNotes], rfl⟩

theorem emits_exchangeOpenai (r : Request) :
    Emits (exchangeOpenai r) fun evs _ => evs = [.request .openai r.openaiParams] := by
  refine (emits_send _ _).bind_silent fun reply => (silent_ofExcept _).bind fun content => ?_
  have hread : Silent (if r.wantsData then ofExcept (Reply.openaiData content) else return content) := by
    split
    · exact silent_ofExcept _
    · exact silent_pure _
  dsimp only
  split
  · exact (silent_setUsage _).bind fun _ => hread
  · exact hread

theorem emits_exchangeGemini (r : Request) :
    Emits (exchangeGemini r) fun evs _ => evs = [.request .gemini r.geminiParams] := by
  refine (emits_send _ _).bind_silent fun reply => ?_
  have hread : Silent do
      changeManager fun m => { m with lastReply := some reply }
      if r.wantsData then ofExcept (Reply.geminiData (Reply.geminiText reply))
        else return Reply.geminiText reply := by
    refine (silent_changeManager _).bind fun _ => ?_
    split
    · exact silent_ofExcept _
    · exact silent_pure _
  dsimp only
  split
  · exact (silent_setUsage _).bind fun _ => hread
  · exact hread

theorem attempted_of_sent {q : Sent} (before : List Event) {evs : List Event} {out : Except Failure α}
    (hb : OnlyNotes before) (h : ∃ after, OnlyNotes after ∧ evs = .request q.1 q.2 :: after) :
    Attempted q (before ++ evs) out := by
  obtain ⟨after, ha, rfl⟩ := h
  exact .inl ⟨before, after, hb, ha, rfl⟩

theorem attempted_of_failed {q : Sent} {f : Failure} (hf : f.isRetryable = false) {evs : List Event}
    {out : Except Failure α} (h : evs = [] ∧ out = .error f) : Attempted q evs out :=
  .inr ⟨h.1, f, h.2, hf⟩

theorem emits_attemptOpenai (r : Request) : Emits (attemptOpenai r) (Attempted (.openai, r.openaiParams)) := by
  have hsend := emits_reportingFailure (q := (.openai, r.openaiParams)) (emits_exchangeOpenai r) .openai
  refine reads_theManager.bind_emits fun m => ?_
  dsimp only
  by_cases hc : (!m.hasOpenai) = true
  · rw [if_pos hc]
    exact (emits_throw_bind _ _).mono fun _ _ => attempted_of_failed (by decide +kernel)
  · rw [if_neg hc]
    split
    · refine (emits_record _).bind (fun _ _ hp => by cases hp.2) fun _ => hsend.mono ?_
      rintro evs' out h evs ⟨rfl, -⟩
      exact attempted_of_sent _ (by simp [OnlyNotes]) h
    · exact hsend.mono fun evs out => attempted_of_sent [] (by simp [OnlyNotes])

theorem emits_attemptGemini (r : Request) : Emits (attemptGemini r) (Attempted (.gemini, r.geminiParams)) := by
  have hsend := emits_reportingFailure (q := (.gemini, r.geminiParams)) (emits_exchangeGemini r) .gemini
  refine reads_theManager.bind_emits fun m => ?_
  dsimp only
  by_cases hc : (!m.hasGemini) = true
  · rw [if_pos hc]
    exact (emits_throw_bind _ _).mono fun _ _ => attempted_of_failed (by decide +kernel)
  · rw [if_neg hc]
    refine reads_get.bind_emits fun s => ?_
    split
    · exact (emits_throw_bind _ _).mono fun _ _ => attempted_of_failed (by decide +kernel)
    · exact hsend.mono fun evs out => attempted_of_sent [] (by simp [OnlyNotes])

def Request.sent (r : Request) : Sent :=
  if isOpenai r.model then (.openai, r.openaiParams) else (.gemini, r.geminiParams)

/-- A request is sent in a block, or it is refused because no provider has its model. -/
theorem emits_callOnce (r : Request) : Emits (callOnce r) (Block r.sent) := by
  unfold callOnce Request.sent
  split_ifs
  · exact emits_retrying (emits_attemptOpenai r) _
  · exact emits_retrying (emits_attemptGemini r) _
  · refine (emits_throw _).mono ?_
    rintro evs out ⟨rfl, rfl⟩
    exact .unsent

/-! ### All chunks of a prompt -/

/-- The prompts for chunks, the first of which has the number `i` out of `n`. -/
def chunkPrompts (n : Nat) : (i : Nat) → List String → List String
  | _, [] => []
  | i, chunk :: rest => chunkPrompt i n chunk :: chunkPrompts n (i + 1) rest

def chunkRequests (r : Request) (n i : Nat) (chunks : List String) : List Sent :=
  (chunkPrompts n i chunks).map fun prompt => { r with prompt }.sent

/-- The events of sending requests one after the other: a block for each of them, and none behind a
failure. -/
inductive Blocks : List Sent → List Event → Except Failure α → Prop where
  | nil {a : α} : Blocks [] [] (.ok a)
  | failed {q : Sent} {qs : List Sent} {evs : List Event} {f : Failure} :
      Block q evs (.error f : Except Failure Datum) → Blocks (q :: qs) evs (.error f)
  | stopped {q : Sent} {qs : List Sent} {evs : List Event} {d : Datum} {f : Failure} :
      Block q evs (.ok d : Except Failure Datum) → Blocks (q :: qs) evs (.error f)
  | cons {q : Sent} {qs : List Sent} {evs rest : List Event} {d : Datum} {out : Except Failure α} :
      Block q evs (.ok d : Except Failure Datum) → Blocks qs rest out → Blocks (q :: qs) (evs ++ rest) out

theorem Blocks.settled_eq {qs : List Sent} {evs : List Event} {a : α}
    (h : Blocks qs evs (.ok a : Except Failure α)) : settled evs = qs := by
  have hfold : evs.foldr settleStep (false, []) = (false, qs) := by
    generalize hout : (.ok a : Except Failure α) = out at h
    induction h with
    | nil => rfl
    | failed _ => cases hout
    | stopped _ => cases hout
    | cons hb _ ih => rw [List.foldr_append, ih hout, hb.foldr_settleStep]
  rw [settled, hfold]

/-- The requests that were sent are those of the first chunks, and of all chunks if all went well. -/
theorem Blocks.mem_requests_iff {qs : List Sent} {evs : List Event} {out : Except Failure α}
    (h : Blocks qs evs out) :
    ∃ k ≤ qs.length, (∀ p, p ∈ requests evs ↔ p ∈ qs.take k) ∧ ∀ a, out = .ok a → k = qs.length := by
  induction h with
  | nil => exact ⟨0, Nat.le_refl 0, fun p => by simp [requests], fun _ _ => rfl⟩
  | @failed q qs evs f hb =>
    by_cases hq : q ∈ requests evs
    · refine ⟨1, by simp, fun p => ?_, fun _ h => by cases h⟩
      rw [List.take_succ_cons, List.take_zero, List.mem_singleton]
      exact ⟨hb.requests_subset p, fun h => h ▸ hq⟩
    · refine ⟨0, by simp, fun p => ?_, fun _ h => by cases h⟩
      rw [List.take_zero]
      exact ⟨fun hp => absurd (hb.requests_subset p hp ▸ hp) hq, fun h => by cases h⟩
  | @stopped q qs evs d f hb =>
    refine ⟨1, by simp, fun p => ?_, fun _ h => by cases h⟩
    rw [List.take_succ_cons, List.take_zero, List.mem_singleton]
    exact ⟨hb.requests_subset p, fun h => h ▸ hb.mem_requests⟩
  | @cons q qs evs rest d out hb _ ih =>
    obtain ⟨k, hk, hmem, hall⟩ := ih
    refine ⟨k + 1, by simpa using hk, fun p => ?_, fun a h => by rw [hall a h, List.length_cons]⟩
    rw [requests_append, List.mem_append, hmem, List.take_succ_cons, List.mem_cons]
    refine or_congr_left ⟨hb.requests_subset p, fun h => h ▸ hb.mem_requests⟩

theorem Blocks.map {β : Type} (f : α → β) {qs : List Sent} {evs : List Event} {out : Except Failure α}
    (h : Blocks qs evs out) : Blocks qs evs (out.map f) := by
  induction h with
  | nil => exact .nil
  | failed hb => exact .failed hb
  | stopped hb => exact .stopped hb
  | cons hb _ ih => exact .cons hb ih

theorem emits_callChunks (r : Request) (n : Nat) (chunks : List String) (i : Nat) (sum : Usage) :
    Emits (callChunks r n i sum chunks) (Blocks (chunkRequests r n i chunks)) := by
  induction chunks generalizing i sum with
  | nil => exact fun s => ⟨[], rfl, .nil⟩
  | cons chunk rest ih =>
    refine (emits_callOnce _).bind (fun _ _ => .failed) fun answer => ?_
    refine reads_theManager.bind_emits fun m => ?_
    -- what is left to do once the usage of this chunk has been added
    have hrest (sum : Usage) : Emits (do
        let p ← callChunks r n (i + 1) sum rest
        return (answer :: p.1, p.2)) fun evs' out => ∀ evs,
          Block { r with prompt := chunkPrompt i n chunk }.sent evs (.ok answer : Except Failure Datum) →
            Blocks (chunkRequests r n i (chunk :: rest)) (evs ++ evs') out := by
      refine (ih (i + 1) sum).bind (fun evs' e hb evs hq => .cons hq hb) fun p => ?_
      refine fun s => ⟨[], rfl, fun evs' hb evs hq => ?_⟩
      rw [List.append_nil]
      exact .cons hq (hb.map fun q : List Datum × Usage => (answer :: q.1, q.2))
    dsimp only
    split
    · split
      · refine (silent_ofExcept _).emits.bind ?_ fun sum => (hrest sum).mono ?_
        · rintro evs' e rfl evs hq
          rw [List.append_nil]
          exact .stopped hq
        · rintro evs'' out h evs' rfl evs hq
          exact h evs hq
      · exact hrest sum
    · exact hrest sum

end Model

end IssuePlanner
