import IssuePlanner.Proofs.Chunk.Splitting
import IssuePlanner.Proofs.Model.Requests

/-! The terms on which a manager sends a prompt: its settings, and the encoding and the limit of the model. They
decide whether a prompt is sent whole and which chunks it is cut into otherwise; what was counted before does not
matter (`perform_call`, `perform_callInChunks`). -/

namespace IssuePlanner.Model

open IssuePlanner.Action Tokens

structure Terms where
  settings : Settings
  encoding : Encoding
  limit : Int

/-- The terms for a model, if it has an encoding. -/
def Manager.terms? (m : Manager) (model : String) : Option Terms :=
  (m.counter.encodingOf? model).map fun e => ⟨m.settings, e, m.counter.limit model⟩

def managerOf (s : Session) : Manager := s.manager.getD {}

namespace Terms

def fits (t : Terms) (r : Request) : Bool :=
  let n := t.encoding.count r.prompt.toList
  decide (n + Counter.expectedAnswer n + t.settings.safetyMargin ≤ t.limit)

/-- The tokens that the prompt of a request may have beside the system message and the margin. -/
def room (t : Terms) (r : Request) : Int :=
  t.limit - t.encoding.count r.systemText.toList - t.settings.safetyMargin

def budget (t : Terms) (r : Request) : Chunk.Budget :=
  { maxTokens := t.room r, overlapRatio := t.settings.overlapRatio }

/-- The pieces that a prompt is cut into, blank or not. -/
def pieces (t : Terms) (r : Request) : List (List Char) :=
  Chunk.cut t.settings.strategy t.encoding (t.budget r) r.prompt.toList

def chunks (t : Terms) (r : Request) : List String :=
  if Text.isBlankText r.prompt then [] else (t.pieces r).map String.ofList

end Terms

variable {α : Type} {s : Session} {r : Request} {t : Terms}

theorem terms?_of_agrees {m : Manager} {c : Counter} {model : String} (h : Counter.Agrees model m.counter c) :
    ({ m with counter := c } : Manager).terms? model = m.terms? model := by
  simp only [Manager.terms?, h.encoding, h.limit]

theorem encodingOf?_of_terms {m : Manager} {model : String} (h : m.terms? model = some t) :
    m.counter.encodingOf? model = some t.encoding ∧ m.settings = t.settings ∧
      m.counter.limit model = t.limit := by
  obtain ⟨e, he, rfl⟩ := Option.map_eq_some_iff.1 h
  exact ⟨he, rfl, rfl⟩

@[simp] theorem perform_theManager (s : Session) : perform theManager s = (.ok (managerOf s), s) := rfl

def recounted (s : Session) (c : Counter) : Session :=
  { s with manager := some { managerOf s with counter := c } }

@[simp] theorem managerOf_recounted (s : Session) (c : Counter) :
    managerOf (recounted s c) = { managerOf s with counter := c } := rfl

theorem perform_counting_ok (f : Counter → Except Failure (α × Counter)) {a : α} {c : Counter}
    (h : f (managerOf s).counter = .ok (a, c)) : perform (counting f) s = (.ok a, recounted s c) := by
  simp only [counting, perform_bind, perform_theManager, andThen_ok, perform_ofExcept, h]
  rfl

theorem perform_counting_error (f : Counter → Except Failure (α × Counter)) {e : Failure}
    (h : f (managerOf s).counter = .error e) : perform (counting f) s = (.error e, s) := by
  simp only [counting, perform_bind, perform_theManager, andThen_ok, perform_ofExcept, h]
  rfl

/-- The margin is compared with the tokens of the prompt alone, not with those of the system message. -/
theorem perform_call (h : (managerOf s).terms? r.model = some t) :
    ∃ s', s'.trace = s.trace ∧ (managerOf s').terms? r.model = some t ∧
      perform (call r) s = perform (if t.fits r then callOnce r else callInChunks r) s' := by
  obtain ⟨he, hset, hlimit⟩ := encodingOf?_of_terms h
  obtain ⟨c, hfits, hagree⟩ := Counter.fits_of_encoding he r.prompt.toList t.settings.safetyMargin
  refine ⟨recounted s c, rfl, (terms?_of_agrees hagree).trans h, ?_⟩
  have hrun := perform_counting_ok (fun c => c.fits r.model r.prompt.toList t.settings.safetyMargin) hfits
  simp only [call, perform_bind, perform_theManager, andThen_ok, hset, hrun, hlimit]
  rfl

theorem perform_call_of_none (h : (managerOf s).terms? r.model = none) (hr : r.prompt.toList ≠ []) :
    ∃ f, perform (call r) s = (.error f, s) := by
  have he : (managerOf s).counter.encodingOf? r.model = none := Option.map_eq_none_iff.1 h
  obtain ⟨f, hf⟩ := Counter.fits_of_none he hr (managerOf s).settings.safetyMargin
  have hrun := perform_counting_error
    (fun c => c.fits r.model r.prompt.toList (managerOf s).settings.safetyMargin) hf
  refine ⟨f, ?_⟩
  simp only [call, perform_bind, perform_theManager, andThen_ok, hrun, andThen_error]

/-- A prompt is sent in its chunks, unless the overlap between them is out of range. -/
theorem perform_callInChunks (h : (managerOf s).terms? r.model = some t) :
    ∃ s', s'.trace = s.trace ∧ ((∃ f, perform (callInChunks r) s = (.error f, s')) ∨
      perform (callInChunks r) s = perform (sendChunks r (t.chunks r)) s') := by
  obtain ⟨he, hset, hlimit⟩ := encodingOf?_of_terms h
  obtain ⟨c, hcount, hagree⟩ := Counter.count_of_encoding he r.systemText.toList
  have he' : c.encodingOf? r.model = some t.encoding := hagree.encoding.trans he
  have hsystem := perform_counting_ok (fun c => c.count r.model r.systemText.toList) hcount
  have hchunksOf : perform (chunksOf r.prompt r.model (t.room r)) (recounted s c) =
      perform (counting fun c => Chunk.split t.settings.strategy (t.budget r) c r.model r.prompt) (recounted s c) := by
    simp only [chunksOf, perform_bind, perform_theManager, andThen_ok, managerOf_recounted, hset]
    rfl
  have hcall : perform (callInChunks r) s =
      andThen (sendChunks r) (perform (chunksOf r.prompt r.model (t.room r)) (recounted s c)) := by
    unfold Terms.room
    simp only [callInChunks, perform_bind, perform_theManager, andThen_ok, hsystem, managerOf_recounted, hset, hlimit]
  rcases Chunk.split_fails_or_cuts he' t.settings.strategy (t.budget r) r.prompt with ⟨f, hsplit⟩ | ⟨c', hsplit, -⟩
  · refine ⟨recounted s c, rfl, .inl ⟨f, ?_⟩⟩
    rw [hcall, hchunksOf, perform_counting_error _ hsplit, andThen_error]
  · refine ⟨recounted (recounted s c) c', rfl, .inr ?_⟩
    rw [hcall, hchunksOf, perform_counting_ok _ hsplit, andThen_ok]
    rfl

/-! ### What is sent -/

theorem emits_sendChunks (r : Request) (chunks : List String) :
    Emits (sendChunks r chunks) fun evs out => ∃ text blocks, evs = .note "info" text :: blocks ∧
      Blocks (chunkRequests r chunks.length 0 chunks) blocks out := by
  refine (emits_record _).bind (fun _ _ hp => by cases hp.2) fun _ => ?_
  refine (emits_callChunks r chunks.length chunks 0 {}).bind ?_ fun p => ?_
  · rintro blocks f hb evs ⟨rfl, -⟩
    exact ⟨_, blocks, rfl, hb.map fun q : List Datum × Usage => mergeAnswers r.wantsData q.1⟩
  · refine fun s => ⟨[], rfl, ?_⟩
    rintro blocks hb evs ⟨rfl, -⟩
    rw [List.append_nil]
    exact ⟨_, blocks, rfl, hb.map fun q : List Datum × Usage => mergeAnswers r.wantsData q.1⟩

/-- A prompt that is sent in chunks leaves the blocks of its chunks; one that cannot be cut leaves nothing. -/
theorem trace_callInChunks (h : (managerOf s).terms? r.model = some t) :
    (∃ f, (perform (callInChunks r) s).1 = .error f ∧ (perform (callInChunks r) s).2.trace = s.trace) ∨
      ∃ text blocks, (perform (callInChunks r) s).2.trace = (.note "info" text :: blocks).reverse ++ s.trace ∧
        Blocks (chunkRequests r (t.chunks r).length 0 (t.chunks r)) blocks (perform (callInChunks r) s).1 := by
  obtain ⟨s', htrace, ⟨f, hrun⟩ | hrun⟩ := perform_callInChunks h
  · exact .inl ⟨f, by rw [hrun], by rw [hrun, htrace]⟩
  · obtain ⟨evs, hevs, text, blocks, rfl, hblocks⟩ := emits_sendChunks r (t.chunks r) s'
    rw [hrun, ← htrace]
    exact .inr ⟨text, blocks, hevs, hblocks⟩

theorem perform_chunksOf_of_none {c : Counter} {model : String} (hc : (managerOf s).counter = c)
    (h : c.encodingOf? model = none) (prompt : String) (n : Int) :
    perform (chunksOf prompt model n) s = (.ok [], recounted s c) ∨
      ∃ f, perform (chunksOf prompt model n) s = (.error f, s) := by
  simp only [chunksOf, perform_bind, perform_theManager, andThen_ok]
  by_cases hblank : Text.isBlankText prompt = true
  · refine .inl (perform_counting_ok _ ?_)
    rw [hc, Chunk.split, if_pos hblank]
  · obtain ⟨f, hf⟩ := Counter.encoding_of_none h
    have hfails : ∃ f, Chunk.split (managerOf s).settings.strategy
        { maxTokens := n, overlapRatio := (managerOf s).settings.overlapRatio } c model prompt = .error f := by
      rw [Chunk.split, if_neg hblank, hf]
      cases Chunk.Budget.ask _ _ with
      | error f' => exact ⟨f', rfl⟩
      | ok _ => exact ⟨f, rfl⟩
    obtain ⟨f', hf'⟩ := hfails
    exact .inr ⟨f', perform_counting_error _ (by rw [hc]; exact hf')⟩

theorem trace_callInChunks_of_none (h : (managerOf s).terms? r.model = none) :
    ∃ evs, (perform (callInChunks r) s).2.trace = evs.reverse ++ s.trace ∧ requests evs = [] := by
  have he : (managerOf s).counter.encodingOf? r.model = none := Option.map_eq_none_iff.1 h
  by_cases hsystem : r.systemText.toList = []
  · have hcount : (managerOf s).counter.count r.model r.systemText.toList = .ok (0, (managerOf s).counter) := by
      rw [hsystem]
      rfl
    have hrun := perform_counting_ok (fun c => c.count r.model r.systemText.toList) hcount
    simp only [callInChunks, perform_bind, perform_theManager, andThen_ok, hrun]
    rcases perform_chunksOf_of_none (s := recounted s (managerOf s).counter) rfl he r.prompt
      ((managerOf s).counter.limit r.model - (0 : Nat) - (managerOf s).settings.safetyMargin) with hc | ⟨f, hc⟩
    · rw [managerOf_recounted, hc, andThen_ok]
      obtain ⟨evs, hevs, text, blocks, rfl, hblocks⟩ := emits_sendChunks r []
        (recounted (recounted s (managerOf s).counter) (managerOf s).counter)
      cases hblocks
      exact ⟨_, hevs, rfl⟩
    · rw [managerOf_recounted, hc]
      exact ⟨[], rfl, rfl⟩
  · obtain ⟨f, hf⟩ := Counter.count_of_none he hsystem
    have hcount := perform_counting_error (fun c => c.count r.model r.systemText.toList) hf
    refine ⟨[], ?_, rfl⟩
    simp only [callInChunks, perform_bind, perform_theManager, andThen_ok, hcount, andThen_error]
    rfl

end IssuePlanner.Model
