import IssuePlanner.Citation
import IssuePlanner.Proofs.Server.Dispatch
import IssuePlanner.Proofs.Text.Lines

/-! What an answer cites. A call keeps the last reply of a Gemini model, and takes from it what the answer cites
(`exists_of_callWithCitations`). That fits an answer of one reply. An answer that is put together from several replies
lacks the citations of all but the last, and what is left points to wrong places (`citations_are_of_last_reply`). -/

namespace IssuePlanner.Model

open IssuePlanner.Action

variable {r : Request} {s s' s₁ : Session} {reply content : Datum}

/-! ### The reply behind an answer -/

/-- A request was answered. The content is read from the last reply that came in, and that reply is kept. -/
structure AnsweredBy (r : Request) (reply content : Datum) (s s' : Session) : Prop where
  among : .answer reply :: s'.replies <:+ s.replies
  read : r.readAnswer reply = .ok content
  kept : (managerOf s').lastReply = some reply

theorem lastReply_exchangeGemini {rest : List Reply} (h : s.replies = .answer reply :: rest) :
    (managerOf (perform (exchangeGemini r) s).2).lastReply = some reply := by
  have hsend : perform (send .gemini r.geminiParams) s =
      (.ok reply, { s with replies := rest, trace := .request .gemini r.geminiParams :: s.trace }) := by
    simp only [send, perform_bind, perform_record, andThen_ok, perform_get, h]
    rfl
  rw [exchangeGemini, perform_bind, hsend, andThen_ok]
  cases Reply.usage? "usage_metadata" reply with
  | none => simp only [perform_bind, perform_changeManager, andThen_ok, perform_readData]; rfl
  | some u =>
    simp only [perform_bind, perform_setUsage, perform_changeManager, andThen_ok, perform_readData]
    rfl

theorem answeredBy_exchangeGemini (hr : isOpenai r.model = false)
    (h : perform (exchangeGemini r) s = (.ok content, s')) : ∃ reply, AnsweredBy r reply content s s' := by
  obtain ⟨hheard, hout⟩ := heard_exchangeGemini hr s
  rw [h] at hheard hout
  cases hreplies : s.replies with
  | nil =>
    rw [hreplies] at hout
    cases hout
  | cons first rest =>
    cases first with
    | refusal e =>
      rw [hreplies] at hout
      cases hout
    | answer reply =>
      have hkept := lastReply_exchangeGemini (r := r) hreplies
      rw [h] at hkept
      rw [hreplies] at hout
      refine ⟨reply, ?_, hout.symm, hkept⟩
      rw [hheard.replies, hreplies]
      exact List.suffix_rfl

theorem perform_of_reportingFailure {provider : Provider} {act : Action Datum}
    (h : perform (reportingFailure provider act) s = (.ok content, s')) : perform act s = (.ok content, s') := by
  rw [reportingFailure, perform_tryCatch] at h
  rcases hact : perform act s with ⟨e | c, s₁⟩
  · rw [hact] at h
    cases h
  · rwa [hact] at h

theorem answeredBy_attemptGemini (hr : isOpenai r.model = false)
    (h : perform (attemptGemini r) s = (.ok content, s')) : ∃ reply, AnsweredBy r reply content s s' := by
  simp only [attemptGemini, perform_bind, perform_theManager, andThen_ok] at h
  split at h
  · cases h
  · rw [perform_bind, perform_get, andThen_ok] at h
    split at h
    · cases h
    · exact answeredBy_exchangeGemini hr (perform_of_reportingFailure h)

theorem replies_attemptGemini (hr : isOpenai r.model = false) (s : Session) :
    (perform (attemptGemini r) s).2.replies <:+ s.replies := by
  simp only [attemptGemini, perform_bind, perform_theManager, andThen_ok]
  split
  · exact List.suffix_rfl
  · rw [perform_bind, perform_get, andThen_ok]
    split
    · exact List.suffix_rfl
    · rw [(heard_reportingFailure .gemini (heard_exchangeGemini hr s)).1.replies]
      exact List.drop_suffix 1 _

theorem answeredBy_attempts {act : Action Datum} (name : String) {attempt left : Nat}
    (hact : ∀ s s', perform act s = (.ok content, s') → ∃ reply, AnsweredBy r reply content s s')
    (hreplies : ∀ s, (perform act s).2.replies <:+ s.replies)
    (h : perform (Retry.attempts name act attempt left) s = (.ok content, s')) :
    ∃ reply, AnsweredBy r reply content s s' := by
  induction left generalizing attempt s with
  | zero => exact hact s s' h
  | succ left ih =>
    rw [Retry.attempts, perform_tryCatch] at h
    have hsuffix := hreplies s
    rcases hrun : perform act s with ⟨e | c, s₁⟩
    · rw [hrun] at h hsuffix
      rw [orElse_error] at h
      split at h
      · -- the warning and the pause leave the replies alone
        obtain ⟨reply, hanswered⟩ := ih h
        exact ⟨reply, hanswered.among.trans hsuffix, hanswered.read, hanswered.kept⟩
      · cases h
    · rw [hrun] at h
      cases h
      exact hact s s' hrun

theorem answeredBy_callOnce (hr : isGemini r.model = true) (h : perform (callOnce r) s = (.ok content, s')) :
    ∃ reply, AnsweredBy r reply content s s' := by
  have hopenai := Server.isOpenai_of_isGemini hr
  rw [callOnce, if_neg (by simp [hopenai]), if_pos hr] at h
  exact answeredBy_attempts "_call_gemini" (fun _ _ => answeredBy_attemptGemini hopenai)
    (replies_attemptGemini hopenai) h

/-! ### The replies behind the answers to chunks -/

/-- Requests were answered one after the other, each by a reply of its own. The last reply is kept. -/
structure AnsweredByAll (r : Request) (replies contents : List Datum) (s s' : Session) : Prop where
  among : (replies.map Reply.answer ++ s'.replies).Sublist s.replies
  read : replies.map r.readAnswer = contents.map .ok
  kept : (managerOf s').lastReply = replies.getLast?.or (managerOf s).lastReply

theorem answeredByAll_callChunks (hr : isGemini r.model = true) {n i : Nat} {sum usage : Usage} {chunks : List String}
    {contents : List Datum} (h : perform (callChunks r n i sum chunks) s = (.ok (contents, usage), s')) :
    ∃ replies, replies.length = chunks.length ∧ AnsweredByAll r replies contents s s' := by
  induction chunks generalizing s i sum contents with
  | nil =>
    cases h
    exact ⟨[], rfl, List.Sublist.refl _, rfl, rfl⟩
  | cons chunk rest ih =>
    rw [callChunks_cons] at h
    obtain ⟨content, s₁, hcall, h₁⟩ := exists_of_perform_bind h
    obtain ⟨m, s₂, hm, h₂⟩ := exists_of_perform_bind h₁
    obtain ⟨sum', s₃, hsum, h₃⟩ := exists_of_perform_bind h₂
    obtain ⟨p, s₄, hrest, h₄⟩ := exists_of_perform_bind h₃
    -- only the request and the other chunks change the session
    obtain rfl : s₁ = s₂ := congrArg Prod.snd hm
    obtain rfl : s₁ = s₃ := by
      rw [perform_ofExcept] at hsum
      exact congrArg Prod.snd hsum
    cases h₄
    obtain ⟨reply, hanswered⟩ := answeredBy_callOnce (r := { r with prompt := chunkPrompt i n chunk }) hr hcall
    obtain ⟨replies, hlength, hall⟩ := ih hrest
    refine ⟨reply :: replies, by simp [hlength], ?_, ?_, ?_⟩
    · exact (hall.among.cons_cons _).trans hanswered.among.sublist
    · rw [List.map_cons, List.map_cons, hall.read]
      exact congrArg (· :: _) hanswered.read
    · rw [hall.kept, hanswered.kept]
      cases replies with
      | nil => rfl
      | cons a as => simp [List.getLast?_cons]

theorem exists_of_perform_counting {α : Type} {f : Tokens.Counter → Except Failure (α × Tokens.Counter)} {a : α}
    (h : perform (counting f) s = (.ok a, s')) :
    ∃ c, f (managerOf s).counter = .ok (a, c) ∧ s' = recounted s c := by
  cases hf : f (managerOf s).counter with
  | error e =>
    rw [perform_counting_error f hf] at h
    cases h
  | ok p =>
    obtain ⟨b, c⟩ := p
    rw [perform_counting_ok f hf] at h
    cases h
    exact ⟨c, rfl, rfl⟩

/-- How an answer comes from the contents of replies: it is the only content, or the contents are merged. -/
def Assembled (r : Request) (plan : Option (List String)) (contents : List Datum) (content : Datum) : Prop :=
  match plan with
  | none => contents = [content]
  | some chunks => contents.length = chunks.length ∧ content = mergeAnswers r.wantsData contents

theorem answeredByAll_sendChunks (hr : isGemini r.model = true) {chunks : List String}
    (h : perform (sendChunks r chunks) s = (.ok content, s')) :
    ∃ replies contents, AnsweredByAll r replies contents s s' ∧ Assembled r (some chunks) contents content := by
  unfold sendChunks at h
  rw [perform_bind, perform_record, andThen_ok, perform_bind] at h
  rcases hrun : perform (callChunks r chunks.length 0 {} chunks) _ with ⟨e | ⟨contents, sum⟩, s₁⟩
  · rw [hrun] at h
    cases h
  · rw [hrun] at h
    cases h
    obtain ⟨replies, hlength, hall⟩ := answeredByAll_callChunks hr hrun
    have hcontents : contents.length = replies.length := by
      have hread := congrArg List.length hall.read
      simpa using hread.symm
    exact ⟨replies, contents, ⟨hall.among, hall.read, hall.kept⟩, hcontents.trans hlength, rfl⟩

theorem answeredByAll_callInChunks (hr : isGemini r.model = true) (h : perform (callInChunks r) s = (.ok content, s')) :
    ∃ chunks replies contents, (managerOf s).cut r = .ok chunks ∧ AnsweredByAll r replies contents s s' ∧
      Assembled r (some chunks) contents content := by
  rw [callInChunks] at h
  obtain ⟨m, _, hm, h₁⟩ := exists_of_perform_bind h
  cases hm
  obtain ⟨system, s₁, hsystem, h₂⟩ := exists_of_perform_bind h₁
  obtain ⟨c, hcount, rfl⟩ := exists_of_perform_counting hsystem
  obtain ⟨m, _, hm, h₃⟩ := exists_of_perform_bind h₂
  cases hm
  obtain ⟨chunks, s₂, hchunks, h₄⟩ := exists_of_perform_bind h₃
  rw [chunksOf] at hchunks
  obtain ⟨m, _, hm, hchunks'⟩ := exists_of_perform_bind hchunks
  cases hm
  obtain ⟨c', hsplit, rfl⟩ := exists_of_perform_counting hchunks'
  obtain ⟨replies, contents, hall, hassembled⟩ := answeredByAll_sendChunks hr h₄
  refine ⟨chunks, replies, contents, ?_, ⟨hall.among, hall.read, hall.kept⟩, hassembled⟩
  have hsplit' : Chunk.split (managerOf s).settings.strategy
      { maxTokens := (managerOf s).counter.limit r.model - system - (managerOf s).settings.safetyMargin,
        overlapRatio := (managerOf s).settings.overlapRatio } c r.model r.prompt = .ok (chunks, c') := hsplit
  simp only [Manager.cut, hcount, bind, Except.bind, hsplit']
  rfl

/-- Behind the answer of a call are as many replies as requests were planned. The last of them is kept. -/
theorem answeredByAll_call (hr : isGemini r.model = true) (h : perform (call r) s = (.ok content, s')) :
    ∃ plan replies contents, (managerOf s).plan r = .ok plan ∧ AnsweredByAll r replies contents s s' ∧
      Assembled r plan contents content := by
  rw [call] at h
  obtain ⟨m, _, hm, h₁⟩ := exists_of_perform_bind h
  cases hm
  obtain ⟨fits, s₁, hfits, h₂⟩ := exists_of_perform_bind h₁
  obtain ⟨c, hcount, rfl⟩ := exists_of_perform_counting hfits
  have hplan : (managerOf s).counter.fits r.model r.prompt.toList (managerOf s).settings.safetyMargin =
    .ok (fits, c) := hcount
  cases fits with
  | true =>
    obtain ⟨reply, hanswered⟩ := answeredBy_callOnce hr h₂
    refine ⟨none, [reply], [content], ?_, ⟨hanswered.among.sublist, ?_, ?_⟩, rfl⟩
    · simp only [Manager.plan, hplan, bind, Except.bind]
      rfl
    · rw [List.map_singleton, hanswered.read, List.map_singleton]
    · rw [hanswered.kept]
      rfl
  | false =>
    obtain ⟨chunks, replies, contents, hcut, hall, hassembled⟩ := answeredByAll_callInChunks hr h₂
    refine ⟨some chunks, replies, contents, ?_, ⟨hall.among, hall.read, hall.kept⟩, hassembled⟩
    have hcut' : ({ managerOf s with counter := c } : Manager).cut r = .ok chunks := hcut
    simp only [Manager.plan, hplan, bind, Except.bind, Bool.false_eq_true, if_false, hcut']
    rfl

/-! ### What an answer cites -/

def citedBy? (reply : Datum) : Option Datum :=
  if reply.holds then (Reply.grounding? reply).toOption.join else none

theorem perform_reportedUsage {u : Usage} (h : perform reportedUsage s = (.ok u, s')) : s' = s := by
  simp only [reportedUsage, perform_bind, perform_theManager, andThen_ok] at h
  split at h
  · cases h
    rfl
  · cases h
    rfl

theorem exists_of_callWithCitations (hr : isGemini r.model = true) {a : Answer}
    (h : perform (callWithCitations r) s = (.ok a, s')) :
    ∃ plan, ∃ replies contents : List Datum, (managerOf s).plan r = .ok plan ∧
      (replies.map Reply.answer).Sublist s.replies ∧ replies.map r.readAnswer = contents.map .ok ∧
      Assembled r plan contents a.content ∧
      a.grounding = replies.getLast?.bind citedBy? := by
  rw [callWithCitations] at h
  obtain ⟨_, s₀, hs₀, h₁⟩ := exists_of_perform_bind h
  cases hs₀
  obtain ⟨content, s₁, hcall, h₂⟩ := exists_of_perform_bind h₁
  obtain ⟨plan, replies, contents, hplan, hall, hassembled⟩ := answeredByAll_call hr hcall
  obtain ⟨usage, s₂, husage, h₃⟩ := exists_of_perform_bind h₂
  obtain rfl := perform_reportedUsage husage
  have hkept : (managerOf s₂).lastReply = replies.getLast? := by
    rw [hall.kept]
    exact Option.or_none
  have hamong : (replies.map Reply.answer).Sublist s.replies :=
    (List.sublist_append_left _ _).trans hall.among
  refine ⟨plan, replies, contents, hplan, hamong, hall.read, ?_⟩
  simp only [perform_bind, perform_theManager, andThen_ok, hr, if_true, hkept] at h₃
  cases hlast : replies.getLast? with
  | none =>
    rw [hlast] at h₃
    cases h₃
    exact ⟨hassembled, rfl⟩
  | some reply =>
    rw [hlast] at h₃
    cases hholds : reply.holds with
    | false =>
      simp only [Option.filter, hholds] at h₃
      cases h₃
      exact ⟨hassembled, by simp [citedBy?, hholds]⟩
    | true =>
      simp only [Option.filter, hholds, if_true] at h₃
      obtain ⟨g, s₃, hg, h₄⟩ := exists_of_perform_bind h₃
      rw [perform_ofExcept] at hg
      cases h₄
      have hgrounding : Reply.grounding? reply = .ok g := congrArg Prod.fst hg
      exact ⟨hassembled, by simp [citedBy?, hholds, hgrounding, Except.toOption]⟩

def supportsOf (metadata : Option Datum) : List Datum :=
  (((metadata.bind (Citation.part? "grounding_supports")).map Datum.iterate).bind Except.toOption).getD []

/-- An end of the segment of a support; the start of the text if it is not given. -/
def segmentEnd? (name : String) (support : Datum) : Option Nat :=
  match (Citation.innerPart? "segment" name support).filter fun d => !d.isNull with
  | some d => (Citation.wholeNumber d).toOption.bind Int.toNat?
  | none => some 0

/-- The characters of a text from one place to another. -/
def excerpt (text : String) (start stop : Nat) : List Char := (text.toList.take stop).drop start

def excerpt? (content : Datum) (start stop : Nat) : Option (List Char) :=
  match content with
  | .text text => some (excerpt text start stop)
  | _ => none

/-- The segment of a support shows the same in a content as in the text of a reply. -/
def InPlace (reply content support : Datum) : Prop :=
  ∀ text start stop, Reply.geminiText reply = .text text → segmentEnd? "start_index" support = some start →
    segmentEnd? "end_index" support = some stop → start ≤ stop → stop ≤ text.toList.length →
    excerpt? content start stop = some (excerpt text start stop)

/-- Metadata fit the content that they come with: every support of a reply is there, and every support that is there
shows what it showed in a reply that had it. -/
structure Fits (replies : List Datum) (content : Datum) (metadata : Option Datum) : Prop where
  complete : ∀ reply ∈ replies, ∀ support ∈ supportsOf (citedBy? reply), support ∈ supportsOf metadata
  placed : ∀ support ∈ supportsOf metadata, ∃ reply ∈ replies, support ∈ supportsOf (citedBy? reply) ∧
    InPlace reply content support

theorem excerpt_append (before text : String) (start stop : Nat) :
    excerpt (before ++ text) (before.toList.length + start) (before.toList.length + stop) =
      excerpt text start stop := by
  simp only [excerpt, String.toList_append, List.take_append, List.drop_append]
  rw [List.take_of_length_le (by omega), List.drop_eq_nil_of_le (by omega)]
  simp

theorem excerpt_of_append {text : String} {stop : Nat} (h : stop ≤ text.toList.length) (after : String) (start : Nat) :
    excerpt (text ++ after) start stop = excerpt text start stop := by
  rw [excerpt, excerpt, String.toList_append, List.take_append_of_le_length h]

theorem contents_eq_map {replies contents : List Datum} (hr : isGemini r.model = true) (hdata : r.wantsData = false)
    (hread : replies.map r.readAnswer = contents.map .ok) : contents = replies.map Reply.geminiText := by
  have htexts (reply : Datum) : r.readAnswer reply = .ok (Reply.geminiText reply) := by
    simp [Request.readAnswer, Server.isOpenai_of_isGemini hr, hdata]
  have hinj : Function.Injective (Except.ok : Datum → Except Failure Datum) := fun _ _ => Except.ok.inj
  refine hinj.list_map ?_
  rw [← hread, List.map_map]
  exact List.map_congr_left fun reply _ => htexts reply

theorem exists_before {plan : Option (List String)} {replies contents : List Datum} {last : Datum} {text : String}
    (hr : isGemini r.model = true) (hdata : r.wantsData = false)
    (hread : replies.map r.readAnswer = contents.map .ok) (hassembled : Assembled r plan contents content)
    (hlast : replies.getLast? = some last) (htext : Reply.geminiText last = .text text) :
    ∃ before : String, content = .text (before ++ text) ∧ (replies.length = 1 → before = "") ∧
      (1 < replies.length → 7 ≤ before.toList.length) := by
  obtain ⟨front, rfl⟩ := List.getLast?_eq_some_iff.1 hlast
  have hcontents := contents_eq_map hr hdata hread
  rw [List.map_append, List.map_singleton, htext] at hcontents
  cases plan with
  | none =>
    have hone : contents = [content] := hassembled
    rw [hone] at hcontents
    cases front with
    | nil =>
      cases hcontents
      exact ⟨"", by rw [String.empty_append], fun _ => rfl, by simp⟩
    | cons first rest => simp at hcontents
  | some chunks =>
    have hmerged : content = .text (Text.join "\n\n---\n\n" (contents.map Datum.display)) := by
      rw [hassembled.2, mergeAnswers, hdata]
      rfl
    rw [hmerged, hcontents, List.map_append, List.map_singleton]
    cases front with
    | nil => exact ⟨"", by rw [String.empty_append]; rfl, fun _ => rfl, by simp⟩
    | cons first rest =>
      rw [Text.join_concat (by simp)]
      refine ⟨_, rfl, by simp, fun _ => ?_⟩
      have hsep : "\n\n---\n\n".toList.length = 7 := by decide
      rw [String.toList_append, List.length_append, hsep]
      omega

theorem inPlace_first {plan : Option (List String)} {replies contents : List Datum} {first : Datum}
    (hr : isGemini r.model = true) (hdata : r.wantsData = false)
    (hread : replies.map r.readAnswer = contents.map .ok) (hassembled : Assembled r plan contents content)
    (hfirst : replies.head? = some first) (support : Datum) : InPlace first content support := by
  intro text start stop htext _ _ _ hstop
  obtain ⟨rest, rfl⟩ := List.head?_eq_some_iff.1 hfirst
  have hcontents := contents_eq_map hr hdata hread
  rw [List.map_cons, htext] at hcontents
  have hafter : ∃ after, content = .text (text ++ after) := by
    cases plan with
    | none =>
      have hone : contents = [content] := hassembled
      rw [hone] at hcontents
      exact ⟨"", by rw [(List.cons.inj hcontents).1, String.append_empty]⟩
    | some chunks =>
      obtain ⟨after, hjoin⟩ := Text.exists_join_cons "\n\n---\n\n" text ((rest.map Reply.geminiText).map Datum.display)
      refine ⟨after, ?_⟩
      rw [hassembled.2, mergeAnswers, hdata, hcontents, ← hjoin]
      rfl
  obtain ⟨after, rfl⟩ := hafter
  exact congrArg some (excerpt_of_append hstop after start)

/-- The citations of an answer are those of the last reply alone. They fit a text that came in one reply. A text that
came in several has the text of the last reply at its end, so every segment stands further back, and that of the first
reply at its start, where the segments stand. So the citations fit exactly if no other reply cites anything else and each
one is given by the first reply too, or happens to show the same. -/
theorem citations_are_of_last_reply (hr : isGemini r.model = true) {a : Answer}
    (h : perform (callWithCitations r) s = (.ok a, s')) :
    ∃ plan, ∃ replies contents : List Datum, (managerOf s).plan r = .ok plan ∧
      (replies.map Reply.answer).Sublist s.replies ∧ replies.map r.readAnswer = contents.map .ok ∧
      Assembled r plan contents a.content ∧ a.grounding = replies.getLast?.bind citedBy? ∧
      (r.wantsData = false → replies.length = 1 → Fits replies a.content a.grounding) ∧
      (r.wantsData = false → 1 < replies.length → ∀ last text, replies.getLast? = some last →
        Reply.geminiText last = .text text → ∃ before : String, 7 ≤ before.toList.length ∧
          a.content = .text (before ++ text) ∧ ∀ start stop, excerpt text start stop =
            excerpt (before ++ text) (before.toList.length + start) (before.toList.length + stop)) ∧
      (r.wantsData = false → ∀ first, replies.head? = some first → ∀ support, InPlace first a.content support) ∧
      (Fits replies a.content a.grounding ↔ ∀ first last, replies.head? = some first → replies.getLast? = some last →
        (∀ reply ∈ replies, ∀ support ∈ supportsOf (citedBy? reply), support ∈ supportsOf (citedBy? last)) ∧
        ∀ support ∈ supportsOf (citedBy? last), r.wantsData = false ∧ support ∈ supportsOf (citedBy? first) ∨
          ∃ reply ∈ replies, support ∈ supportsOf (citedBy? reply) ∧ InPlace reply a.content support) := by
  obtain ⟨plan, replies, contents, hplan, hamong, hread, hassembled, hgrounding⟩ := exists_of_callWithCitations hr h
  have hfirst (hdata : r.wantsData = false) (first : Datum) (hhead : replies.head? = some first) (support : Datum) :
      InPlace first a.content support := inPlace_first hr hdata hread hassembled hhead support
  refine ⟨plan, replies, contents, hplan, hamong, hread, hassembled, hgrounding, ?_, ?_, hfirst, ?_⟩
  · intro hdata hone
    obtain ⟨reply, rfl⟩ := List.length_eq_one_iff.1 hone
    have hcited : a.grounding = citedBy? reply := hgrounding
    rw [hcited]
    refine ⟨by simp, fun support hsupport => ⟨reply, by simp, hsupport, ?_⟩⟩
    intro text start stop htext _ _ _ _
    obtain ⟨before, hcontent, hbefore, -⟩ := exists_before hr hdata hread hassembled rfl htext
    rw [hcontent, hbefore rfl, String.empty_append]
    rfl
  · intro hdata hmany last text hlast htext
    obtain ⟨before, hcontent, -, hbefore⟩ := exists_before hr hdata hread hassembled hlast htext
    exact ⟨before, hbefore hmany, hcontent, fun start stop => (excerpt_append before text start stop).symm⟩
  · cases hlast : replies.getLast? with
    | none =>
      rw [List.getLast?_eq_none_iff] at hlast
      subst hlast
      rw [hgrounding]
      refine iff_of_true ⟨by simp, ?_⟩ (by simp)
      intro support hsupport
      cases hsupport
    | some last =>
      have hcited : a.grounding = citedBy? last := by rw [hgrounding, hlast]; rfl
      rw [hcited]
      constructor
      · rintro hfits first _ - ⟨⟩
        exact ⟨hfits.complete, fun support hsupport => .inr (hfits.placed support hsupport)⟩
      · intro hconditions
        obtain ⟨first, hhead⟩ : ∃ first, replies.head? = some first := by
          cases replies with
          | nil => cases hlast
          | cons first rest => exact ⟨first, rfl⟩
        obtain ⟨hcomplete, hplaced⟩ := hconditions first last hhead rfl
        refine ⟨hcomplete, fun support hsupport => ?_⟩
        rcases hplaced support hsupport with ⟨hdata, hgiven⟩ | hplace
        · exact ⟨first, List.mem_of_head? hhead, hgiven, hfirst hdata first hhead support⟩
        · exact hplace

def supportUpTo (stop : Int) : Datum :=
  .record [("segment", .record [("start_index", .int 0), ("end_index", .int stop)]),
    ("grounding_chunk_indices", .list [.int 0])]

def citingReply (text : String) (stop : Int) : Datum :=
  .record [("text", .text text), ("grounding_metadata", .record [("grounding_supports", .list [supportUpTo stop])])]

theorem supportsOf_citingReply (text : String) (stop : Int) :
    supportsOf (citedBy? (citingReply text stop)) = [supportUpTo stop] := rfl

/-- A session that sends a prompt in two chunks, both of which are answered with citations. -/
def citingSession : Session :=
  { manager := some { narrowManager with counter := { config := { limits := [("gemini-2.5-pro", 151)] } } }
    replies := [.answer (citingReply "One." 3), .answer (citingReply "Two." 4)] }

/-- The citations of the first reply are lost, and those of the second point into the first. -/
theorem second_reply_hides_citations :
    ∃ a s', perform (callWithCitations { pairRequest with model := "gemini-2.5-pro" }) citingSession = (.ok a, s') ∧
      a.content = .text "One.\n\n---\n\nTwo." ∧ a.grounding = citedBy? (citingReply "Two." 4) ∧
      ¬Fits [citingReply "One." 3, citingReply "Two." 4] a.content a.grounding := by
  have hok : (perform (callWithCitations { pairRequest with model := "gemini-2.5-pro" })
      citingSession).1.toOption.isSome = true := by decide +kernel
  obtain ⟨a, ha⟩ := Option.isSome_iff_exists.1 hok
  have hrun : perform (callWithCitations { pairRequest with model := "gemini-2.5-pro" }) citingSession =
    (.ok a, _) := Prod.ext (eq_ok_of_toOption ha) rfl
  obtain ⟨plan, replies, contents, hplan, hamong, hread, hassembled, hgrounding, -, -, -, -⟩ :=
    citations_are_of_last_reply (by decide +kernel) hrun
  have hcut : (managerOf citingSession).plan { pairRequest with model := "gemini-2.5-pro" } =
      .ok (some ["ab.", "cd."]) := eq_ok_of_toOption (by decide +kernel)
  rw [hcut] at hplan
  cases hplan
  obtain ⟨hlength, hcontent⟩ := hassembled
  have hreplies : replies = [citingReply "One." 3, citingReply "Two." 4] := by
    have hcount := congrArg List.length hread
    simp only [List.length_map, hlength] at hcount
    have hall := hamong.eq_of_length (by simp [hcount, citingSession])
    have hinj : Function.Injective Reply.answer := fun _ _ => Reply.answer.inj
    exact hinj.list_map hall
  subst hreplies
  have hcontents : contents = [.text "One.", .text "Two."] := contents_eq_map (by decide +kernel) rfl hread
  rw [hcontents] at hcontent
  refine ⟨a, _, hrun, hcontent.trans rfl, hgrounding, fun hfits => ?_⟩
  have hlost := hfits.complete (citingReply "One." 3) (by simp) (supportUpTo 3)
    (by rw [supportsOf_citingReply]; simp)
  rw [hgrounding] at hlost
  have hsame : supportUpTo 3 ∈ [supportUpTo 4] := by rwa [← supportsOf_citingReply "Two." 4]
  simp [supportUpTo] at hsame

end IssuePlanner.Model
