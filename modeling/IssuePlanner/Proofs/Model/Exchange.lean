import IssuePlanner.Proofs.Model.Terms

/-! One request and the replies to it. An attempt takes the next reply and has the outcome of reading it
(`Request.outcome`). A request is sent again while the outcome is a failure that is worth it, five times at most, and
a pause lies between any two attempts (`perform_callOnce`). -/

namespace IssuePlanner

open IssuePlanner.Action

def Event.pause? : Event → Option Nat
  | .pause seconds => some seconds
  | _ => none

def pauses (evs : List Event) : List Nat := evs.filterMap Event.pause?

@[simp] theorem pauses_append (as bs : List Event) : pauses (as ++ bs) = pauses as ++ pauses bs :=
  List.filterMap_append

theorem pauses_onlyNotes {evs : List Event} (h : OnlyNotes evs) : pauses evs = [] := by
  refine List.filterMap_eq_nil_iff.2 fun ev hev => ?_
  obtain ⟨level, text, rfl⟩ := h ev hev
  rfl

namespace Model

variable {α : Type} {s s' t : Session} {r : Request}

theorem SentOnce.pauses_eq {q : Sent} {evs : List Event} (h : SentOnce q evs) : pauses evs = [] := by
  obtain ⟨before, after, hb, ha, rfl⟩ := h
  rw [pauses_append, pauses_onlyNotes hb, List.nil_append]
  show pauses after = []
  exact pauses_onlyNotes ha

/-! ### What a reply gives -/

/-- The failure of a request that nothing answers. -/
def noReply : Failure := .provider { kind := "RuntimeError", message := "no scripted reply" }

namespace Request

def readAnswer (r : Request) (d : Datum) : Except Failure Datum :=
  if isOpenai r.model then do
    let content ← Reply.openaiText d
    if r.wantsData then Reply.openaiData content else return content
  else if r.wantsData then Reply.geminiData (Reply.geminiText d)
  else .ok (Reply.geminiText d)

/-- The outcome of an attempt, given the replies that are still to come. -/
def outcome (r : Request) : List Reply → Except Failure Datum
  | [] => .error noReply
  | .refusal e :: _ => .error (.provider e)
  | .answer d :: _ => r.readAnswer d

/-- The usage on record after a reply. A reply that reports none leaves the record as it is. -/
def recorded (r : Request) (last : Option Usage) : Reply → Option Usage
  | .refusal _ => last
  | .answer d =>
    if isOpenai r.model then
      match Reply.openaiText d with
      | .ok _ => (Reply.usage? "usage" d).or last
      | .error _ => last
    else (Reply.usage? "usage_metadata" d).or last

end Request

/-- A client for a model is there, and its library works. -/
def Serves (s : Session) (model : String) : Prop :=
  if isOpenai model then (managerOf s).hasOpenai = true
  else isGemini model = true ∧ (managerOf s).hasGemini = true ∧ s.faults.configClassMissing = false

instance (s : Session) (model : String) : Decidable (Serves s model) :=
  inferInstanceAs (Decidable (if isOpenai model then (managerOf s).hasOpenai = true
    else isGemini model = true ∧ (managerOf s).hasGemini = true ∧ s.faults.configClassMissing = false))

/-- The first `k` replies to a request have come in. -/
structure Heard (r : Request) (k : Nat) (s s' : Session) : Prop where
  replies : s'.replies = s.replies.drop k
  usage : (managerOf s').lastUsage = (s.replies.take k).foldl r.recorded (managerOf s).lastUsage
  faults : s'.faults = s.faults
  openai : (managerOf s').hasOpenai = (managerOf s).hasOpenai
  gemini : (managerOf s').hasGemini = (managerOf s).hasGemini

theorem Heard.trans {j k : Nat} (h : Heard r j s s') (h' : Heard r k s' t) : Heard r (j + k) s t where
  replies := by rw [h'.replies, h.replies, List.drop_drop]
  usage := by rw [h'.usage, h.usage, h.replies, List.take_add, List.foldl_append]
  faults := h'.faults.trans h.faults
  openai := h'.openai.trans h.openai
  gemini := h'.gemini.trans h.gemini

theorem Heard.refl (r : Request) (s : Session) : Heard r 0 s s := ⟨rfl, rfl, rfl, rfl, rfl⟩

/-- Events change nothing about the replies. -/
theorem Heard.traced {k : Nat} (h : Heard r k s s') (trace : List Event) :
    Heard r k s { s' with trace := trace } := ⟨h.replies, h.usage, h.faults, h.openai, h.gemini⟩

theorem Serves.heard {k : Nat} (hs : Serves s r.model) (h : Heard r k s s') : Serves s' r.model := by
  unfold Serves at hs ⊢
  rwa [h.openai, h.gemini, h.faults]

/-! ### One attempt -/

theorem perform_changeManager (f : Manager → Manager) (s : Session) :
    perform (changeManager f) s = (.ok (), { s with manager := some (f (managerOf s)) }) := rfl

theorem perform_setUsage (u : Option Usage) (s : Session) :
    perform (setUsage u) s = (.ok (), { s with manager := some { managerOf s with lastUsage := u } }) := rfl

theorem send_cases (r : Request) (provider : Provider) (params : List (String × Datum)) (s : Session) :
    (∃ f s', perform (send provider params) s = (.error f, s') ∧ r.outcome s.replies = .error f ∧ Heard r 1 s s') ∨
    ∃ d rest, s.replies = .answer d :: rest ∧ perform (send provider params) s =
      (.ok d, { s with replies := rest, trace := .request provider params :: s.trace }) := by
  simp only [send, perform_bind, perform_record, andThen_ok, perform_get]
  cases hreplies : s.replies with
  | nil =>
    refine .inl ⟨_, _, rfl, rfl, ?_⟩
    exact ⟨by simp [hreplies], by simp [hreplies, managerOf], rfl, rfl, rfl⟩
  | cons reply rest =>
    cases reply with
    | refusal e =>
      refine .inl ⟨_, _, rfl, rfl, ?_⟩
      exact ⟨by simp [hreplies], by simp [hreplies, managerOf, Request.recorded], rfl, rfl, rfl⟩
    | answer d => exact .inr ⟨d, rest, rfl, rfl⟩

/-- Reading data out of a content, where data is asked for, leaves the session alone. -/
theorem perform_readData (b : Bool) (x : Except Failure Datum) (content : Datum) (s : Session) :
    perform (if b then ofExcept x else pure content) s = (if b then x else .ok content, s) := by
  cases b with
  | true => exact perform_ofExcept x s
  | false => rfl

theorem heard_exchangeOpenai (hr : isOpenai r.model = true) (s : Session) :
    Heard r 1 s (perform (exchangeOpenai r) s).2 ∧ (perform (exchangeOpenai r) s).1 = r.outcome s.replies := by
  unfold exchangeOpenai
  rw [perform_bind]
  rcases send_cases r .openai r.openaiParams s with ⟨f, s', hsend, hout, hheard⟩ | ⟨d, rest, hreplies, hsend⟩
  · rw [hsend, hout]
    exact ⟨hheard, rfl⟩
  · rw [hsend, andThen_ok, perform_bind, perform_ofExcept, hreplies]
    simp only [Request.outcome, Request.readAnswer, hr, if_true]
    cases htext : Reply.openaiText d with
    | error f =>
      refine ⟨⟨by simp [hreplies], ?_, rfl, rfl, rfl⟩, rfl⟩
      simp [hreplies, managerOf, Request.recorded, hr, htext]
    | ok content =>
      rw [andThen_ok]
      cases husage : Reply.usage? "usage" d with
      | none =>
        simp only [perform_readData]
        refine ⟨⟨by simp [hreplies], ?_, rfl, rfl, rfl⟩, rfl⟩
        simp [hreplies, managerOf, Request.recorded, hr, htext, husage]
      | some u =>
        simp only [perform_bind, perform_setUsage, andThen_ok, perform_readData]
        refine ⟨⟨by simp [hreplies], ?_, rfl, rfl, rfl⟩, rfl⟩
        simp [hreplies, managerOf, Request.recorded, hr, htext, husage]

theorem heard_exchangeGemini (hr : isOpenai r.model = false) (s : Session) :
    Heard r 1 s (perform (exchangeGemini r) s).2 ∧ (perform (exchangeGemini r) s).1 = r.outcome s.replies := by
  unfold exchangeGemini
  rw [perform_bind]
  rcases send_cases r .gemini r.geminiParams s with ⟨f, s', hsend, hout, hheard⟩ | ⟨d, rest, hreplies, hsend⟩
  · rw [hsend, hout]
    exact ⟨hheard, rfl⟩
  · have hout : r.outcome s.replies =
        if r.wantsData then Reply.geminiData (Reply.geminiText d) else .ok (Reply.geminiText d) := by
      rw [hreplies, Request.outcome, Request.readAnswer, hr]
      rfl
    rw [hsend, andThen_ok, hout]
    cases husage : Reply.usage? "usage_metadata" d with
    | none =>
      simp only [perform_bind, perform_changeManager, andThen_ok, perform_readData, and_true]
      refine ⟨by simp [hreplies], ?_, rfl, rfl, rfl⟩
      simp [hreplies, managerOf, Request.recorded, hr, husage]
    | some u =>
      simp only [perform_bind, perform_setUsage, perform_changeManager, andThen_ok, perform_readData, and_true]
      refine ⟨by simp [hreplies], ?_, rfl, rfl, rfl⟩
      simp [hreplies, managerOf, Request.recorded, hr, husage]

theorem heard_reportingFailure (provider : Provider) {act : Action Datum}
    (h : Heard r 1 s (perform act s).2 ∧ (perform act s).1 = r.outcome s.replies) :
    Heard r 1 s (perform (reportingFailure provider act) s).2 ∧
      (perform (reportingFailure provider act) s).1 = r.outcome s.replies := by
  rw [reportingFailure, perform_tryCatch]
  obtain ⟨hheard, hout⟩ := h
  rcases hact : perform act s with ⟨f | d, s'⟩
  · rw [hact] at hheard hout
    exact ⟨hheard.traced _, hout⟩
  · rw [hact] at hheard hout
    exact ⟨hheard, hout⟩

/-- An action is one attempt at a request: it sends the request once, takes the next reply and has the outcome of
reading it. -/
def IsAttempt (r : Request) (act : Action Datum) : Prop :=
  ∀ s, Serves s r.model → ∃ evs s', perform act s = (r.outcome s.replies, s') ∧
    s'.trace = evs.reverse ++ s.trace ∧ SentOnce r.sent evs ∧ Heard r 1 s s'

theorem IsAttempt.of_exchange {act exchange : Action Datum} (provider : Provider)
    (hsent : Emits exchange fun evs _ => evs = [.request r.sent.1 r.sent.2])
    (hheard : ∀ s, Heard r 1 s (perform exchange s).2 ∧ (perform exchange s).1 = r.outcome s.replies)
    (hact : ∀ s, Serves s r.model → ∃ notes s₁, OnlyNotes notes ∧ s₁.trace = notes.reverse ++ s.trace ∧
      Heard r 0 s s₁ ∧ perform act s = perform (reportingFailure provider exchange) s₁) :
    IsAttempt r act := by
  intro s hs
  obtain ⟨notes, s₁, hnotes, htrace, h₀, hrun⟩ := hact s hs
  obtain ⟨evs, hevs, after, hafter, rfl⟩ := emits_reportingFailure hsent provider s₁
  obtain ⟨h₁, hout⟩ := heard_reportingFailure provider (hheard s₁)
  refine ⟨notes ++ .request r.sent.1 r.sent.2 :: after, _, ?_, ?_, ⟨notes, after, hnotes, hafter, rfl⟩, h₀.trans h₁⟩
  · rw [h₀.replies, List.drop_zero] at hout
    rw [hrun, ← hout]
  · rw [hevs, htrace, List.reverse_append, List.append_assoc]

theorem isAttempt_openai (hr : isOpenai r.model = true) : IsAttempt r (attemptOpenai r) := by
  have hsent : r.sent = (.openai, r.openaiParams) := if_pos hr
  refine .of_exchange .openai (by rw [hsent]; exact emits_exchangeOpenai r) (heard_exchangeOpenai hr) fun s hs => ?_
  have hclient : (managerOf s).hasOpenai = true := by simpa [Serves, hr] using hs
  simp only [attemptOpenai, perform_bind, perform_theManager, andThen_ok, hclient, Bool.not_true,
    Bool.false_eq_true, if_false]
  split
  · rw [perform_bind, perform_record, andThen_ok]
    exact ⟨[_], _, by simp [OnlyNotes], rfl, (Heard.refl r s).traced _, rfl⟩
  · exact ⟨[], s, by simp [OnlyNotes], rfl, .refl r s, rfl⟩

theorem isAttempt_gemini (hr : isOpenai r.model = false) : IsAttempt r (attemptGemini r) := by
  have hsent : r.sent = (.gemini, r.geminiParams) := by simp [Request.sent, hr]
  refine .of_exchange .gemini (by rw [hsent]; exact emits_exchangeGemini r) (heard_exchangeGemini hr) fun s hs => ?_
  obtain ⟨-, hclient, hlibrary⟩ : isGemini r.model = true ∧ (managerOf s).hasGemini = true ∧
      s.faults.configClassMissing = false := by simpa [Serves, hr] using hs
  refine ⟨[], s, by simp [OnlyNotes], rfl, .refl r s, ?_⟩
  simp only [attemptGemini, perform_bind, perform_theManager, andThen_ok, hclient, Bool.not_true,
    Bool.false_eq_true, if_false, perform_get, hlibrary]

/-! ### As many attempts as it takes -/

/-- The outcome is a failure that is worth another try. -/
def Retryable (out : Except Failure α) : Prop := ∃ f, out = .error f ∧ f.isRetryable = true

@[simp] theorem not_retryable_ok (a : α) : ¬ Retryable (.ok a : Except Failure α) := by
  rintro ⟨f, hf, -⟩
  cases hf

@[simp] theorem retryable_error {f : Failure} : Retryable (.error f : Except Failure α) ↔ f.isRetryable = true := by
  constructor
  · rintro ⟨g, hg, hretry⟩
    cases hg
    exact hretry
  · exact fun h => ⟨f, rfl, h⟩

/-- With outcomes given by number, `k` attempts are made: every one but the last fails in a way that is worth another
try, and the last one does not or uses up the limit. -/
structure Tried (limit : Nat) (outcome : Nat → Except Failure α) (k : Nat) : Prop where
  pos : 1 ≤ k
  le_limit : k ≤ limit
  retried : ∀ i, i + 1 < k → Retryable (outcome i)
  ended : k = limit ∨ ¬ Retryable (outcome (k - 1))

theorem Tried.once {limit : Nat} {outcome : Nat → Except Failure α} (hlimit : 1 ≤ limit)
    (h : 1 = limit ∨ ¬ Retryable (outcome 0)) : Tried limit outcome 1 :=
  ⟨Nat.le_refl 1, hlimit, fun i hi => by omega, h⟩

theorem Tried.again {limit k : Nat} {outcome : Nat → Except Failure α} (h₀ : Retryable (outcome 0))
    (h : Tried limit (fun i => outcome (i + 1)) k) : Tried (limit + 1) outcome (k + 1) where
  pos := by omega
  le_limit := Nat.succ_le_succ h.le_limit
  retried i hi := by
    cases i with
    | zero => exact h₀
    | succ i => exact h.retried i (by omega)
  ended := by
    have hk : k - 1 + 1 = k := Nat.sub_add_cancel h.pos
    refine h.ended.imp (congrArg (· + 1)) fun hlast => ?_
    rwa [hk] at hlast

/-- The outcomes of a request by the number of the attempt. -/
def Request.outcomes (r : Request) (replies : List Reply) (i : Nat) : Except Failure Datum :=
  r.outcome (replies.drop i)

/-- What an attempt of this number and up to `left` further ones come to. -/
theorem perform_attempts {act : Action Datum} (hact : IsAttempt r act) (name : String) (left attempt : Nat)
    (hs : Serves s r.model) :
    ∃ k evs s', perform (Retry.attempts name act attempt left) s = (r.outcomes s.replies (k - 1), s') ∧
      s'.trace = evs.reverse ++ s.trace ∧ Tried (left + 1) (r.outcomes s.replies) k ∧ Heard r k s s' ∧
      requests evs = List.replicate k r.sent ∧ pauses evs = (List.range' attempt (k - 1)).map Retry.pause := by
  induction left generalizing attempt s with
  | zero =>
    obtain ⟨evs, s₁, hrun, htrace, hsent, hheard⟩ := hact s hs
    exact ⟨1, evs, s₁, hrun, htrace, .once (Nat.le_refl 1) (.inl rfl), hheard, hsent.requests_eq, hsent.pauses_eq⟩
  | succ left ih =>
    obtain ⟨evs, s₁, hrun, htrace, hsent, hheard⟩ := hact s hs
    rw [Retry.attempts, perform_tryCatch, hrun]
    -- an outcome that is not worth another try ends the block at once
    have hlast (h : ¬ Retryable (r.outcomes s.replies 0)) : Tried (left + 1 + 1) (r.outcomes s.replies) 1 :=
      .once (by omega) (.inr h)
    cases hout : r.outcome s.replies with
    | ok d =>
      have h₀ : r.outcomes s.replies 0 = .ok d := hout
      exact ⟨1, evs, s₁, by rw [h₀]; rfl, htrace, hlast (by simp [h₀]), hheard, hsent.requests_eq, hsent.pauses_eq⟩
    | error f =>
      have h₀ : r.outcomes s.replies 0 = .error f := hout
      rw [orElse_error]
      cases hf : f.isRetryable with
      | false =>
        exact ⟨1, evs, s₁, by rw [h₀]; rfl, htrace, hlast (by simp [h₀, hf]), hheard, hsent.requests_eq,
          hsent.pauses_eq⟩
      | true =>
        have hheard₂ := hheard.traced (.pause (Retry.pause attempt) ::
          .note "warning" (Retry.warning name "T" attempt f) :: s₁.trace)
        obtain ⟨k, rest, s', hk, htrace', htried, hheard', hrequests, hpauses⟩ :=
          ih (attempt + 1) (hs.heard hheard₂)
        have hrest : r.outcomes s₁.replies = fun i => r.outcomes s.replies (i + 1) := by
          funext i
          rw [Request.outcomes, hheard.replies, List.drop_drop, Nat.add_comm 1 i]
          rfl
        rw [hrest] at hk htried
        have hk1 : k - 1 + 1 = k := Nat.sub_add_cancel htried.pos
        have hfinal : r.outcomes s.replies (k - 1 + 1) = r.outcomes s.replies k := by rw [hk1]
        refine ⟨k + 1, evs ++ [.note "warning" (Retry.warning name "T" attempt f), .pause (Retry.pause attempt)]
          ++ rest, s', hk.trans (congrArg (·, s') hfinal), ?_, htried.again (by simp [h₀, hf]), ?_, ?_, ?_⟩
        · rw [htrace', htrace]
          simp
        · rw [Nat.add_comm]
          exact hheard₂.trans hheard'
        · rw [requests_append, requests_append, hsent.requests_eq, hrequests, List.replicate_succ]
          rfl
        · rw [pauses_append, pauses_append, hsent.pauses_eq, hpauses, Nat.add_sub_cancel, ← hk1,
            List.range'_succ]
          rfl

/-! ### A block of requests -/

/-- The events of sending a request `k` times, and no oftener than its outcomes call for. -/
structure Exchange (q : Sent) (outcome : Nat → Except Failure α) (k : Nat) (evs : List Event) : Prop where
  tried : Tried 5 outcome k
  requests_eq : requests evs = List.replicate k q
  length_pauses : (pauses evs).length = k - 1
  pauses_within : ∀ n ∈ pauses evs, 4 ≤ n ∧ n ≤ 60
  pauses_mono : (pauses evs).Pairwise (· ≤ ·)

theorem pause_within (attempt : Nat) : 4 ≤ Retry.pause attempt ∧ Retry.pause attempt ≤ 60 := by
  unfold Retry.pause
  omega

theorem pause_mono {i j : Nat} (h : i ≤ j) : Retry.pause i ≤ Retry.pause j := by
  have hshift : 1 <<< (i - 1) ≤ 1 <<< (j - 1) := by
    rw [Nat.one_shiftLeft, Nat.one_shiftLeft]
    exact Nat.pow_le_pow_right Nat.two_pos (Nat.sub_le_sub_right h 1)
  unfold Retry.pause
  omega

theorem perform_callOnce (hs : Serves s r.model) :
    ∃ k evs s', perform (callOnce r) s = (r.outcomes s.replies (k - 1), s') ∧ s'.trace = evs.reverse ++ s.trace ∧
      Exchange r.sent (r.outcomes s.replies) k evs ∧ Heard r k s s' := by
  have hcall : ∃ name act, callOnce r = Retry.retrying name act ∧ IsAttempt r act := by
    cases hr : isOpenai r.model with
    | true => exact ⟨_, _, by rw [callOnce, if_pos hr], isAttempt_openai hr⟩
    | false =>
      have hgemini : isGemini r.model = true := by
        rw [Serves, if_neg (by simp [hr])] at hs
        exact hs.1
      exact ⟨_, _, by rw [callOnce, if_neg (by simp [hr]), if_pos hgemini], isAttempt_gemini hr⟩
  obtain ⟨name, act, hcall, hact⟩ := hcall
  obtain ⟨k, evs, s', hrun, htrace, htried, hheard, hrequests, hpauses⟩ :=
    perform_attempts hact name 4 1 hs
  rw [hcall]
  refine ⟨k, evs, s', hrun, htrace, ⟨htried, hrequests, ?_, ?_, ?_⟩, hheard⟩
  · rw [hpauses, List.length_map, List.length_range']
  · intro n hn
    rw [hpauses] at hn
    obtain ⟨i, -, rfl⟩ := List.mem_map.1 hn
    exact pause_within i
  · rw [hpauses, List.pairwise_map]
    exact (List.pairwise_le_range' 1).imp fun h => pause_mono h

theorem perform_callOnce_of_answer {d : Datum} {rest : List Reply} (hs : Serves s r.model)
    (hreplies : s.replies = .answer d :: rest) (hread : ¬ Retryable (r.readAnswer d)) :
    ∃ s', perform (callOnce r) s = (r.readAnswer d, s') ∧ Heard r 1 s s' := by
  obtain ⟨k, evs, s', hrun, -, hexchange, hheard⟩ := perform_callOnce hs
  have hfirst : r.outcomes s.replies 0 = r.readAnswer d := by rw [hreplies]; rfl
  have hk : k = 1 := by
    by_contra hne
    have hpos := hexchange.tried.pos
    exact hread (hfirst ▸ hexchange.tried.retried 0 (by omega))
  subst hk
  exact ⟨s', by rw [hrun, hfirst], hheard⟩

end Model

end IssuePlanner
