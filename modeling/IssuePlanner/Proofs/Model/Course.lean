import IssuePlanner.Proofs.Model.Exchange

/-! The course of a call. A prompt is sent whole, in one exchange, or in chunks. Chunks are sent in their order, one
exchange for each, until all are answered or one cannot be processed (`Course`). A reply to a chunk is processed when
its content has been read and its usage is in the books. -/

namespace IssuePlanner

/-- A text has none of some letters, be they small or capital. -/
def lacks (letters : List Char) (s : String) : Bool := letters.all fun c => !(s.toList.map Char.toLower).contains c

theorem lacks_append (letters : List Char) (s t : String) :
    lacks letters (s ++ t) = true ↔ lacks letters s = true ∧ lacks letters t = true := by
  simp only [lacks, String.toList_append, List.map_append, List.all_eq_true, Bool.not_eq_true', List.contains_eq_mem,
    decide_eq_false_iff_not, List.mem_append, not_or]
  exact forall₂_and

/-- A text does not mention terms each of which has a letter that the text lacks. -/
theorem mentions_eq_false {letters : List Char} {terms : List String} {s : String} (hs : lacks letters s = true)
    (hterms : (terms.all fun t => letters.any t.toList.contains) = true) : mentions terms s = false := by
  rw [mentions, List.any_eq_false]
  intro t ht hoccurs
  obtain ⟨n, hn⟩ := Option.isSome_iff_exists.1 hoccurs
  obtain ⟨c, hc, hct⟩ := List.any_eq_true.1 (List.all_eq_true.1 hterms t ht)
  have hmem : c ∈ s.toList.map Char.toLower := (Text.findAt_isInfix hn).subset (List.contains_iff_mem.1 hct)
  have hnot := List.all_eq_true.1 hs c hc
  rw [List.contains_iff_mem.2 hmem] at hnot
  cases hnot

def kinds : List String := ["NoneType", "bool", "int", "float", "str", "list", "dict", "Obj"]

theorem kind_mem_kinds (d : Datum) : d.kind ∈ kinds := by
  cases d <;> simp [kinds, Datum.kind]

theorem isRetryable_shape (fault : ShapeFault) : (Failure.shape fault).isRetryable =
    mentions ["resource_exhausted", "quota", "rate limit", "too many requests"] fault.message := by
  have hrefusal : (Failure.shape fault).isRefusal = false := rfl
  have htransient : (Failure.shape fault).isTransient = false := rfl
  have hmessage : (Failure.shape fault).message = fault.message := rfl
  delta Failure.isRetryable
  rw [hrefusal, htransient, hmessage, Bool.false_or, Bool.false_or]

/-- That values cannot be added is no reason to try again: each term that calls for another try has a letter that the
message lacks. -/
theorem isRetryable_badOperands (a b : Datum) :
    (Failure.shape (.badOperands "+=" a.kind b.kind)).isRetryable = false := by
  have hkinds : kinds.all (lacks ['x', 'q', 'm']) = true := by decide +kernel
  have hwords : ["unsupported operand type(s) for ", "+=", ": '", "' and '", "'"].all
      (lacks ['x', 'q', 'm']) = true := by decide +kernel
  have hterms : (["resource_exhausted", "quota", "rate limit", "too many requests"].all
      fun t => ['x', 'q', 'm'].any t.toList.contains) = true := by decide +kernel
  have htext : (ShapeFault.badOperands "+=" a.kind b.kind).message = "unsupported operand type(s) for " ++ "+="
      ++ ": '" ++ a.kind ++ "' and '" ++ b.kind ++ "'" := rfl
  have ha := List.all_eq_true.1 hkinds _ (kind_mem_kinds a)
  have hb := List.all_eq_true.1 hkinds _ (kind_mem_kinds b)
  simp only [List.all_cons, List.all_nil, Bool.and_true, Bool.and_eq_true] at hwords
  rw [isRetryable_shape, htext]
  refine mentions_eq_false ?_ hterms
  simp only [lacks_append, ha, hb, hwords, and_self]

namespace Model

open IssuePlanner.Action

variable {α β : Type} {s : Session} {r : Request}

/-! ### Keeping books -/

/-- Adds the usage that was reported last, if it is worth reporting. -/
def Usage.addLast (sum : Usage) : Option Usage → Except Failure Usage
  | some u => if u.isPresent then sum.add u else .ok sum
  | none => .ok sum

/-- What a call in chunks has used so far, and the usage that was reported last. -/
structure Books where
  sum : Usage := {}
  last : Option Usage

/-- Enters the replies to one request: the usage that was reported last counts. -/
def Books.enter (b : Books) (r : Request) (heard : List Reply) : Except Failure Books :=
  let last := heard.foldl r.recorded b.last
  (b.sum.addLast last).map fun sum => ⟨sum, last⟩

/-- The outcome of the attempt of a number, once its reply is in the books: the answer and the books afterwards. -/
def Request.processed (r : Request) (b : Books) (replies : List Reply) (i : Nat) : Except Failure (Datum × Books) :=
  match r.outcomes replies i with
  | .ok answer => (b.enter r (replies.take (i + 1))).map (answer, ·)
  | .error f => .error f

theorem not_retryable_bind {x : Except Failure α} {f : α → Except Failure β} (hx : ¬ Retryable x)
    (hf : ∀ a, ¬ Retryable (f a)) : ¬ Retryable (x >>= f) := by
  cases x with
  | ok a => exact hf a
  | error e =>
    show ¬ Retryable (.error e)
    simpa using hx

theorem not_retryable_map {x : Except Failure α} (f : α → β) (hx : ¬ Retryable x) : ¬ Retryable (x.map f) := by
  cases x with
  | ok a => exact not_retryable_ok (f a)
  | error e => simpa [Except.map] using hx

theorem not_retryable_addTo (sum d : Datum) : ¬ Retryable (sum.addTo d) := by
  unfold Datum.addTo Datum.plus
  split
  · exact not_retryable_ok _
  · exact fun h => absurd (retryable_error.1 h) (by rw [isRetryable_badOperands]; exact Bool.false_ne_true)

theorem not_retryable_addLast (sum : Usage) (last : Option Usage) : ¬ Retryable (sum.addLast last) := by
  unfold Usage.addLast
  split
  · split
    · refine not_retryable_bind (not_retryable_addTo _ _) fun prompt => ?_
      refine not_retryable_bind (not_retryable_addTo _ _) fun completion => ?_
      exact not_retryable_bind (not_retryable_addTo _ _) fun total => not_retryable_ok _
    · exact not_retryable_ok _
  · exact not_retryable_ok _

/-- Processing a reply is worth another try only if reading it is. -/
theorem retryable_processed (b : Books) (replies : List Reply) (i : Nat) :
    Retryable (r.processed b replies i) ↔ Retryable (r.outcomes replies i) := by
  unfold Request.processed
  cases r.outcomes replies i with
  | ok answer =>
    refine iff_of_false (not_retryable_map _ (not_retryable_map _ ?_)) (not_retryable_ok answer)
    exact not_retryable_addLast _ _
  | error f => rw [retryable_error, retryable_error]

theorem Tried.congr {limit k : Nat} {outcome : Nat → Except Failure α} {outcome' : Nat → Except Failure β}
    (h : ∀ i, Retryable (outcome' i) ↔ Retryable (outcome i)) (ht : Tried limit outcome k) :
    Tried limit outcome' k :=
  ⟨ht.pos, ht.le_limit, fun i hi => (h i).2 (ht.retried i hi), ht.ended.imp_right (mt (h _).1)⟩

theorem Exchange.processed {q : Sent} {replies : List Reply} {k : Nat} {evs : List Event}
    (h : Exchange q (r.outcomes replies) k evs) (b : Books) : Exchange q (r.processed b replies) k evs :=
  { h with tried := h.tried.congr (retryable_processed b replies) }

/-! ### One chunk after the other -/

/-- What stands before the chunk of number `j`, counted from one, out of `n`. -/
def header (j n : Nat) : String :=
  if n ≤ 1 then "" else
    (if 1 < j then "[Continuing from previous chunk...]\n\n" else "")
      ++ "[Chunk " ++ Number.natText j ++ "/" ++ Number.natText n ++ "]\n\n"

theorem chunkPrompt_eq_header (i n : Nat) (chunk : String) : chunkPrompt i n chunk = header (i + 1) n ++ chunk := by
  unfold chunkPrompt header
  by_cases hn : n ≤ 1
  · rw [if_pos hn, if_pos hn, String.empty_append]
  · rw [if_neg hn, if_neg hn]
    cases i with
    | zero => simp
    | succ i => simp

/-- The events of sending chunks, the first of which has the number `i` out of `n`, given the books and the replies to
come. The outcome holds the answers and the sum of usages. -/
inductive Course (r : Request) (n : Nat) :
    Nat → Books → List Reply → List String → List Event → Except Failure (List Datum × Usage) → Prop where
  | done {i : Nat} {b : Books} {replies : List Reply} : Course r n i b replies [] [] (.ok ([], b.sum))
  | failed {i k : Nat} {b : Books} {replies : List Reply} {chunk : String} {rest : List String} {evs : List Event}
      {f : Failure} :
      Exchange { r with prompt := header (i + 1) n ++ chunk }.sent (r.processed b replies) k evs →
      r.processed b replies (k - 1) = .error f → Course r n i b replies (chunk :: rest) evs (.error f)
  | next {i k : Nat} {b b' : Books} {replies : List Reply} {chunk : String} {rest : List String}
      {evs evs' : List Event} {answer : Datum} {out : Except Failure (List Datum × Usage)} :
      Exchange { r with prompt := header (i + 1) n ++ chunk }.sent (r.processed b replies) k evs →
      r.processed b replies (k - 1) = .ok (answer, b') → Course r n (i + 1) b' (replies.drop k) rest evs' out →
      Course r n i b replies (chunk :: rest) (evs ++ evs') (out.map fun p => (answer :: p.1, p.2))

theorem callChunks_cons (r : Request) (n i : Nat) (sum : Usage) (chunk : String) (rest : List String) :
    callChunks r n i sum (chunk :: rest) = do
      let answer ← callOnce { r with prompt := chunkPrompt i n chunk }
      let m ← theManager
      let sum ← ofExcept (sum.addLast m.lastUsage)
      let p ← callChunks r n (i + 1) sum rest
      return (answer :: p.1, p.2) := by
  rw [callChunks]
  congr 1
  funext answer
  congr 1
  funext m
  cases m.lastUsage with
  | none => rfl
  | some u =>
    rw [Usage.addLast]
    dsimp only
    split
    · rfl
    · rfl

theorem perform_callChunks (n : Nat) (chunks : List String) (i : Nat) (b : Books) (hs : Serves s r.model)
    (hb : (managerOf s).lastUsage = b.last) :
    ∃ evs out s', perform (callChunks r n i b.sum chunks) s = (out, s') ∧ s'.trace = evs.reverse ++ s.trace ∧
      Course r n i b s.replies chunks evs out := by
  -- the record of the manager and the last entry of the books stay the same from chunk to chunk
  induction chunks generalizing i b s with
  | nil => exact ⟨[], _, s, rfl, rfl, .done⟩
  | cons chunk rest ih =>
    obtain ⟨k, evs, s', hcall, htrace, hexchange, hheard⟩ :=
      perform_callOnce (r := { r with prompt := chunkPrompt i n chunk }) hs
    have hblock : Exchange { r with prompt := header (i + 1) n ++ chunk }.sent (r.processed b s.replies) k evs := by
      rw [← chunkPrompt_eq_header]
      exact hexchange.processed b
    have husage : (managerOf s').lastUsage = (s.replies.take (k - 1 + 1)).foldl r.recorded b.last := by
      rw [Nat.sub_add_cancel hexchange.tried.pos, ← hb]
      exact hheard.usage
    rw [callChunks_cons, perform_bind, hcall]
    cases hout : Request.outcomes { r with prompt := chunkPrompt i n chunk } s.replies (k - 1) with
    | error f =>
      have hprocessed : r.processed b s.replies (k - 1) = .error f := by
        have hr : r.outcomes s.replies (k - 1) = .error f := hout
        rw [Request.processed, hr]
      exact ⟨evs, _, s', rfl, htrace, .failed hblock hprocessed⟩
    | ok answer =>
      have hprocessed : r.processed b s.replies (k - 1) =
          (b.enter r (s.replies.take (k - 1 + 1))).map (answer, ·) := by
        have hr : r.outcomes s.replies (k - 1) = .ok answer := hout
        rw [Request.processed, hr]
      -- a reply that was read may still fail to be entered
      rw [Books.enter, ← husage] at hprocessed
      simp only [andThen_ok, perform_bind, perform_theManager, perform_ofExcept]
      cases hsum : b.sum.addLast (managerOf s').lastUsage with
      | error f =>
        rw [hsum] at hprocessed
        exact ⟨evs, _, s', rfl, htrace, .failed hblock hprocessed⟩
      | ok sum =>
        rw [hsum] at hprocessed
        have hs' : Serves s' r.model := Serves.heard (r := { r with prompt := chunkPrompt i n chunk }) hs hheard
        obtain ⟨evs', out, t, hrun, htrace', hcourse⟩ := ih (i + 1) ⟨sum, (managerOf s').lastUsage⟩ hs' rfl
        rw [hheard.replies] at hcourse
        rw [htrace, ← List.append_assoc, ← List.reverse_append] at htrace'
        refine ⟨evs ++ evs', _, t, ?_, htrace', .next hblock hprocessed hcourse⟩
        rw [andThen_ok, perform_bind, hrun]
        cases out with
        | error f => rfl
        | ok p => rfl

/-- Sending all chunks announces them and runs their course; the sum of usages is on record afterwards. -/
theorem perform_sendChunks (hs : Serves s r.model) (chunks : List String) :
    ∃ text course outs s', perform (sendChunks r chunks) s = (outs.map fun p => mergeAnswers r.wantsData p.1, s') ∧
      s'.trace = (.note "info" text :: course).reverse ++ s.trace ∧
      Course r chunks.length 0 { last := (managerOf s).lastUsage } s.replies chunks course outs ∧
      ∀ p, outs = .ok p → (managerOf s').lastUsage = some p.2 := by
  unfold sendChunks
  generalize "Split prompt into " ++ Number.natText chunks.length ++ " chunks for model " ++ r.model = text
  rw [perform_bind, perform_record, andThen_ok, perform_bind]
  obtain ⟨course, outs, s', hrun, htrace, hcourse⟩ := perform_callChunks
    (s := { s with trace := .note "info" text :: s.trace }) chunks.length chunks 0
    { last := (managerOf s).lastUsage } hs rfl
  have htrace' : s'.trace = (.note "info" text :: course).reverse ++ s.trace := by
    rw [htrace, List.reverse_cons, List.append_assoc]
    rfl
  rw [hrun]
  cases outs with
  | error f => exact ⟨text, course, _, s', rfl, htrace', hcourse, fun p h => by cases h⟩
  | ok p =>
    let s'' : Session := { s' with manager := some { managerOf s' with lastUsage := some p.2 } }
    exact ⟨text, course, _, s'', rfl, htrace', hcourse, fun _ h => by cases h; rfl⟩

/-! ### Plans -/

/-- The chunks that a manager cuts a prompt into, or the failure to count its tokens or to work out the overlap. -/
def Manager.cut (m : Manager) (r : Request) : Except Failure (List String) := do
  let (system, c) ← m.counter.count r.model r.systemText.toList
  let budget : Chunk.Budget :=
    { maxTokens := m.counter.limit r.model - system - m.settings.safetyMargin, overlapRatio := m.settings.overlapRatio }
  let (chunks, _) ← Chunk.split m.settings.strategy budget c r.model r.prompt
  return chunks

/-- How a manager sends a prompt: whole, or in chunks. -/
def Manager.plan (m : Manager) (r : Request) : Except Failure (Option (List String)) := do
  let (fits, counter) ← m.counter.fits r.model r.prompt.toList m.settings.safetyMargin
  if fits then return none else some <$> { m with counter }.cut r

theorem Heard.recounted (r : Request) (s : Session) (c : Tokens.Counter) : Heard r 0 s (recounted s c) :=
  ⟨rfl, rfl, rfl, rfl, rfl⟩

theorem perform_callInChunks_cut (r : Request) (s : Session) :
    ∃ s', s'.trace = s.trace ∧ Heard r 0 s s' ∧
      perform (callInChunks r) s = andThen (sendChunks r) ((managerOf s).cut r, s') := by
  unfold callInChunks Manager.cut chunksOf
  simp only [perform_bind, perform_theManager, andThen_ok]
  cases hcount : (managerOf s).counter.count r.model r.systemText.toList with
  | error f =>
    rw [perform_counting_error _ hcount]
    exact ⟨s, rfl, .refl r s, rfl⟩
  | ok p =>
    obtain ⟨system, c⟩ := p
    rw [perform_counting_ok _ hcount]
    simp only [andThen_ok, perform_bind, perform_theManager, managerOf_recounted]
    cases hsplit : Chunk.split (managerOf s).settings.strategy
      { maxTokens := (managerOf s).counter.limit r.model - system - (managerOf s).settings.safetyMargin,
        overlapRatio := (managerOf s).settings.overlapRatio } c r.model r.prompt with
    | error f =>
      refine ⟨recounted s c, rfl, .recounted r s c, ?_⟩
      rw [perform_counting_error _ hsplit]
      simp only [bind, Except.bind, hsplit]
    | ok q =>
      obtain ⟨chunks, c'⟩ := q
      refine ⟨recounted (recounted s c) c', rfl, (Heard.recounted r s c).trans (.recounted r _ c'), ?_⟩
      rw [perform_counting_ok _ hsplit]
      simp only [bind, Except.bind, hsplit]
      rfl

/-- The events and the outcome of a call that goes by a plan: one exchange for a prompt that is sent whole, a course for
one that is sent in chunks, whose answers are merged. Without a plan nothing is sent. -/
def Carried (r : Request) (last : Option Usage) (replies : List Reply) (plan : Except Failure (Option (List String)))
    (evs : List Event) (out : Except Failure Datum) : Prop :=
  match plan with
  | .ok none => ∃ k, Exchange r.sent (r.outcomes replies) k evs ∧ out = r.outcomes replies (k - 1)
  | .ok (some chunks) => ∃ text course outs, evs = .note "info" text :: course ∧
      Course r chunks.length 0 { last } replies chunks course outs ∧
      out = outs.map fun p => mergeAnswers r.wantsData p.1
  | .error f => evs = [] ∧ out = .error f

/-- An action on a session goes by a plan for sending a request. -/
def Follows (act : Action Datum) (r : Request) (s : Session) (plan : Except Failure (Option (List String))) : Prop :=
  ∃ evs, (perform act s).2.trace = evs.reverse ++ s.trace ∧
    Carried r (managerOf s).lastUsage s.replies plan evs (perform act s).1

theorem Follows.of_heard {act act' : Action Datum} {s' : Session} {plan : Except Failure (Option (List String))}
    (htrace : s'.trace = s.trace) (hheard : Heard r 0 s s') (hrun : perform act s = perform act' s')
    (h : Follows act' r s' plan) : Follows act r s plan := by
  obtain ⟨evs, hevs, hcarried⟩ := h
  refine ⟨evs, by rw [hrun, hevs, htrace], ?_⟩
  have husage : (managerOf s').lastUsage = (managerOf s).lastUsage := hheard.usage
  rwa [husage, hheard.replies, List.drop_zero, ← hrun] at hcarried

theorem follows_callOnce (hs : Serves s r.model) : Follows (callOnce r) r s (.ok none) := by
  obtain ⟨k, evs, s', hrun, htrace, hexchange, -⟩ := perform_callOnce hs
  rw [Follows, hrun]
  exact ⟨evs, htrace, k, hexchange, rfl⟩

theorem follows_callInChunks (hs : Serves s r.model) :
    Follows (callInChunks r) r s (((managerOf s).cut r).map some) := by
  obtain ⟨s', htrace, hheard, hrun⟩ := perform_callInChunks_cut r s
  cases hcut : (managerOf s).cut r with
  | error f =>
    rw [hcut, andThen_error] at hrun
    rw [Follows, hrun]
    exact ⟨[], htrace, rfl, rfl⟩
  | ok chunks =>
    rw [hcut, andThen_ok] at hrun
    refine .of_heard htrace hheard hrun ?_
    obtain ⟨text, course, outs, t, hsend, htrace', hcourse, -⟩ := perform_sendChunks (hs.heard hheard) chunks
    rw [Follows, hsend]
    exact ⟨_, htrace', text, course, outs, rfl, hcourse, rfl⟩

theorem follows_call (hs : Serves s r.model) : Follows (call r) r s ((managerOf s).plan r) := by
  unfold Manager.plan
  cases hfits : (managerOf s).counter.fits r.model r.prompt.toList (managerOf s).settings.safetyMargin with
  | error f =>
    have hrun : perform (call r) s = (.error f, s) := by
      simp only [call, perform_bind, perform_theManager, andThen_ok,
        perform_counting_error (fun c => c.fits r.model r.prompt.toList (managerOf s).settings.safetyMargin) hfits,
        andThen_error]
    rw [Follows, hrun]
    exact ⟨[], rfl, rfl, rfl⟩
  | ok p =>
    obtain ⟨fits, c⟩ := p
    have htrace : (recounted s c).trace = s.trace := rfl
    have hheard : Heard r 0 s (recounted s c) := .recounted r s c
    have hrun : perform (call r) s = perform (if fits then callOnce r else callInChunks r) (recounted s c) := by
      simp only [call, perform_bind, perform_theManager, andThen_ok,
        perform_counting_ok (fun c => c.fits r.model r.prompt.toList (managerOf s).settings.safetyMargin) hfits]
    refine .of_heard htrace hheard hrun ?_
    cases fits with
    | true => exact follows_callOnce (hs.heard hheard)
    | false => exact follows_callInChunks (hs.heard hheard)

/-- With a client and a working library every call keeps to the protocol, whatever the replies. A call goes by the plan
of the manager: the whole prompt is one exchange, and chunks are sent in their order, one exchange for each. An exchange
repeats one request until it is processed or fails for good, five times at most, with a pause of 4 to 60 seconds between
any two attempts. A chunk that fails ends the call with its failure, and otherwise the answers are merged in order. -/
theorem call_keeps_protocol (hs : Serves s r.model) :
    Follows (callOnce r) r s (.ok none) ∧ Follows (callInChunks r) r s (((managerOf s).cut r).map some) ∧
      Follows (call r) r s ((managerOf s).plan r) :=
  ⟨follows_callOnce hs, follows_callInChunks hs, follows_call hs⟩

/-- A manager whose model leaves room for very short chunks only. -/
def narrowManager : Manager :=
  { settings := { safetyMargin := 100, overlapRatio := 0 }
    counter := { config := { limits := [("gpt-4o", 151)] } } }

/-- A request that a narrow manager sends in two chunks. -/
def pairRequest : Request := { prompt := "ab. cd.", model := "gpt-4o" }

/-- A session whose provider refuses the first request and answers the next two. -/
def busySession : Session :=
  { manager := some narrowManager
    replies := [.refusal { kind := "RateLimitError", message := "busy" },
      .answer (.record [("output_text", .text "A")]), .answer (.record [("output_text", .text "B")])] }

/-- The first chunk is sent twice, with a pause of four seconds between, and the second chunk once. -/
theorem call_repeats_refused_chunk :
    Serves busySession pairRequest.model ∧ ∃ evs, (perform (call pairRequest) busySession).2.trace = evs.reverse ∧
      Carried pairRequest none busySession.replies (.ok (some ["ab.", "cd."])) evs
        (perform (call pairRequest) busySession).1 ∧ (requests evs).length = 3 ∧ pauses evs = [4] := by
  have hs : Serves busySession pairRequest.model := by decide +kernel
  have hplan : (managerOf busySession).plan pairRequest = .ok (some ["ab.", "cd."]) :=
    eq_ok_of_toOption (by decide +kernel)
  obtain ⟨-, -, evs, htrace, hcarried⟩ := call_keeps_protocol hs
  have hevs : (perform (call pairRequest) busySession).2.trace = evs.reverse := htrace.trans (List.append_nil _)
  have hcount : (requests (perform (call pairRequest) busySession).2.trace.reverse).length = 3 ∧
      pauses (perform (call pairRequest) busySession).2.trace.reverse = [4] := by decide +kernel
  rw [hevs, List.reverse_reverse] at hcount
  rw [hplan] at hcarried
  exact ⟨hs, evs, hevs, hcarried, hcount⟩

end Model

end IssuePlanner
