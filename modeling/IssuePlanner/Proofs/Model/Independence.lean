import IssuePlanner.Proofs.Session.Alike

/-! Calls do not depend on earlier calls. What a manager remembers is the encodings that it has looked up, the last reply
and the usage on record. On sessions that are alike a call does the same (`agree_call`); only a call in chunks looks at
the usage on record, and it leaves its own. -/

namespace IssuePlanner.Model

open IssuePlanner.Action Tokens

variable {α : Type} {x y : Option String} {c c' : Bool} {s t : Session} {r : Request}

/-! ### The manager -/

/-- What is done next depends on the manager, but not on what it remembers. -/
theorem agree_theManager_bind {k k' : Manager → Action α}
    (h : ∀ m m', m.provision = m'.provision → (c = true → SameEffect m.lastUsage m'.lastUsage) →
      Agree x y c c' (k m) (k' m')) : Agree x y c c' (theManager >>= k) (theManager >>= k') := by
  simp only [theManager, bind_assoc, pure_bind]
  exact .get_bind fun s t hst => h _ _ hst.provision hst.usage

theorem alike_setManager {m m' : Manager} (h : Alike x y c s t) (hm : m.provision = (managerOf s).provision)
    (hm' : m'.provision = (managerOf t).provision) (husage : c' = true → SameEffect m.lastUsage m'.lastUsage) :
    Alike x y c' { s with manager := some m } { t with manager := some m' } where
  scene := by
    have hfst : (scene s).1 = (scene t).1 := congrArg Prod.fst h.scene
    refine Prod.ext hfst ?_
    show some m.provision = some m'.provision
    rw [hm, hm', h.provision]
  attended := h.attended
  left := h.left
  right := h.right
  usage := husage

theorem agree_changeManager {f f' : Manager → Manager} (hf : ∀ m, (f m).provision = m.provision)
    (hf' : ∀ m, (f' m).provision = m.provision)
    (husage : ∀ m m', (c = true → SameEffect m.lastUsage m'.lastUsage) → c' = true →
      SameEffect (f m).lastUsage (f' m').lastUsage) : Agree x y c c' (changeManager f) (changeManager f') := by
  intro s t h
  rw [perform_changeManager, perform_changeManager]
  exact ⟨rfl, alike_setManager h (hf _) (hf' _) (husage _ _ h.usage)⟩

theorem agree_setUsage (u : Option Usage) : Agree x y c c (setUsage u) (setUsage u) :=
  agree_changeManager (fun _ => rfl) (fun _ => rfl) fun _ _ _ _ => .refl u

theorem agree_counting {f : Counter → Except Failure (α × Counter)} (hf : Counter.OnlyCounts f) :
    Agree x y c c (counting f) (counting f) := by
  intro s t h
  have houtlook : (managerOf s).counter.outlook = (managerOf t).counter.outlook := congrArg Provision.outlook h.provision
  rcases cases_of_map_fst (hf.agrees houtlook) with ⟨e, hs, ht⟩ | ⟨a, d, d', hs, ht⟩
  · rw [perform_counting_error f hs, perform_counting_error f ht]
    exact ⟨rfl, h⟩
  · rw [perform_counting_ok f hs, perform_counting_ok f ht]
    exact ⟨rfl, alike_setManager h (Counter.OnlyCounts.provision hf hs) (Counter.OnlyCounts.provision hf ht) h.usage⟩

/-! ### One request -/

theorem agree_send (provider : Provider) (params : List (String × Datum)) :
    Agree x y c c (send provider params) (send provider params) := by
  have hrest (rest : List Reply) : Incidental fun s => { s with replies := rest } :=
    ⟨⟨fun p => ({ p.1 with replies := rest }, p.2), fun _ => rfl⟩, fun _ => rfl, fun _ => rfl, fun _ => rfl⟩
  refine (agree_record _).bind fun _ => .get_bind fun s t h => ?_
  rw [show t.replies = s.replies from (h.read Session.replies fun _ => rfl).symm]
  split
  · exact .throw _
  · next reply rest _ =>
    refine (Agree.set ((hrest rest).alike h)).bind fun _ => ?_
    cases reply with
    | answer d => exact .pure d
    | refusal e => exact .throw _

theorem agree_reportingFailure {act : Action α} (h : Agree x y c c act act) (provider : Provider) :
    Agree x y c c (reportingFailure provider act) (reportingFailure provider act) :=
  h.tryCatch fun _ => (agree_record _).bind fun _ => .throw _

theorem agree_exchangeOpenai (r : Request) : Agree x y c c (exchangeOpenai r) (exchangeOpenai r) := by
  refine (agree_send _ _).bind fun _ => (Agree.ofExcept _).bind fun _ => ?_
  dsimp only
  split
  · exact (agree_setUsage _).bind fun _ => .ite (.ofExcept _) (.pure _)
  · exact .ite (.ofExcept _) (.pure _)

theorem agree_exchangeGemini (r : Request) : Agree x y c c (exchangeGemini r) (exchangeGemini r) := by
  have hreply (reply : Datum) : Agree x y c c (changeManager fun m => { m with lastReply := some reply })
      (changeManager fun m => { m with lastReply := some reply }) :=
    agree_changeManager (fun _ => rfl) (fun _ => rfl) fun _ _ h hc => h hc
  refine (agree_send _ _).bind fun _ => ?_
  dsimp only
  split
  · exact (agree_setUsage _).bind fun _ => (hreply _).bind fun _ => .ite (.ofExcept _) (.pure _)
  · exact (hreply _).bind fun _ => .ite (.ofExcept _) (.pure _)

theorem agree_attemptOpenai (r : Request) : Agree x y c c (attemptOpenai r) (attemptOpenai r) := by
  refine agree_theManager_bind fun m m' hm _ => ?_
  rw [show m.hasOpenai = m'.hasOpenai from congrArg Provision.hasOpenai hm]
  refine .ite (.throw_bind _ _ _) (.ite ?_ ?_)
  · exact (agree_record _).bind fun _ => agree_reportingFailure (agree_exchangeOpenai r) _
  · exact agree_reportingFailure (agree_exchangeOpenai r) _

theorem agree_attemptGemini (r : Request) : Agree x y c c (attemptGemini r) (attemptGemini r) := by
  refine agree_theManager_bind fun m m' hm _ => ?_
  rw [show m.hasGemini = m'.hasGemini from congrArg Provision.hasGemini hm]
  refine .ite (.throw_bind _ _ _) (.get_bind fun s t h => ?_)
  rw [h.read Session.faults fun _ => rfl]
  exact .ite (.throw_bind _ _ _) (agree_reportingFailure (agree_exchangeGemini r) _)

theorem agree_attempts {act : Action α} (h : Agree x y c c act act) (name : String) (left attempt : Nat) :
    Agree x y c c (Retry.attempts name act attempt left) (Retry.attempts name act attempt left) := by
  induction left generalizing attempt with
  | zero => exact h
  | succ left ih =>
    refine h.tryCatch fun f => .ite ?_ (.throw f)
    exact (agree_record _).bind fun _ => (agree_record _).bind fun _ => ih _

theorem agree_callOnce (r : Request) : Agree x y c c (callOnce r) (callOnce r) :=
  .ite (agree_attempts (agree_attemptOpenai r) _ _ _)
    (.ite (agree_attempts (agree_attemptGemini r) _ _ _) (.throw _))

/-! ### Chunks -/

theorem fst_callChunks_cons (r : Request) (n i : Nat) (sum : Usage) (chunk : String) (rest : List String) :
    Prod.fst <$> callChunks r n i sum (chunk :: rest) = (do
      let answer ← callOnce { r with prompt := chunkPrompt i n chunk }
      let m ← theManager
      let sum ← ofExcept (sum.addLast m.lastUsage)
      (answer :: ·) <$> Prod.fst <$> callChunks r n (i + 1) sum rest) := by
  simp only [callChunks_cons, map_eq_pure_bind, bind_assoc, pure_bind]

/-- Chunks get the same answers if the sums of usages are of the same kinds. -/
theorem agree_callChunks (r : Request) (n : Nat) (chunks : List String) (i : Nat) {k : Kinds} {sum sum' : Usage}
    (hsum : sum.IsSum k) (hsum' : sum'.IsSum k) :
    Agree x y true true (Prod.fst <$> callChunks r n i sum chunks) (Prod.fst <$> callChunks r n i sum' chunks) := by
  -- the sums differ, but their kinds agree from chunk to chunk
  induction chunks generalizing i k sum sum' with
  | nil => exact .pure []
  | cons chunk rest ih =>
    rw [fst_callChunks_cons, fst_callChunks_cons]
    refine (agree_callOnce _).bind fun answer => agree_theManager_bind fun m m' _ husage => ?_
    rcases addLast_congr hsum hsum' (husage rfl) with ⟨u, v, k', hu, hv, hku, hkv⟩ | ⟨f, hf, hf'⟩
    · rw [hu, hv]
      exact (ih (i + 1) hku hkv).map _
    · rw [hf, hf']
      exact .throw_bind f _ _

theorem agree_sendChunks (r : Request) (chunks : List String) :
    Agree x y true false (sendChunks r chunks) (sendChunks r chunks) := by
  refine (agree_record _).bind_loose fun _ s t h => ?_
  have hzero : ({} : Usage).IsSum (.whole, .whole, .whole) := ⟨.whole 0, .whole 0, .whole 0, rfl, rfl, rfl, rfl⟩
  obtain ⟨hout, halike⟩ := agree_callChunks r chunks.length chunks 0 hzero hzero s t h
  rw [perform_map, perform_map] at hout halike
  rw [perform_bind, perform_bind]
  rcases hs : perform (callChunks r chunks.length 0 {} chunks) s with ⟨out, s₁⟩
  rcases ht : perform (callChunks r chunks.length 0 {} chunks) t with ⟨out', t₁⟩
  rw [hs, ht] at hout halike
  rcases cases_of_map_fst hout with ⟨e, rfl, rfl⟩ | ⟨answers, sum, sum', rfl, rfl⟩
  · exact ⟨rfl, halike.weaken fun hc => by cases hc⟩
  · exact ⟨rfl, alike_setManager halike rfl rfl fun hc => by cases hc⟩

theorem agree_callInChunks (r : Request) : Agree x y true false (callInChunks r) (callInChunks r) := by
  refine agree_theManager_bind fun m m' hm _ => ?_
  rw [Library.limit_congr (congrArg Provision.outlook hm)]
  refine (agree_counting (Library.onlyCounts_tokens _ _ _)).bind_loose fun system => ?_
  refine agree_theManager_bind fun m₁ m₁' hm₁ _ => ?_
  rw [show m₁.settings = m₁'.settings from congrArg Provision.settings hm₁]
  refine Agree.bind_loose ?_ fun chunks => agree_sendChunks r chunks
  refine agree_theManager_bind fun m₂ m₂' hm₂ _ => ?_
  rw [show m₂.settings = m₂'.settings from congrArg Provision.settings hm₂]
  exact agree_counting (Counter.onlyCounts_split _ _ _ _)

theorem agree_call (r : Request) : Agree x y true false (call r) (call r) := by
  refine agree_theManager_bind fun m m' hm _ => ?_
  rw [show m.settings = m'.settings from congrArg Provision.settings hm]
  refine (agree_counting (Library.onlyCounts_fits _ _ _ _)).bind_loose fun fits => .ite ?_ (agree_callInChunks r)
  exact (agree_callOnce r).weaken fun hc => by cases hc

/-! ### What a call leaves on record -/

theorem grows_theManager : Grows theManager := Grows.get.bind fun _ => .pure _

theorem grows_counting (f : Counter → Except Failure (α × Counter)) : Grows (counting f) :=
  grows_theManager.bind fun _ => .bind (.of_preserves (.ofExcept _)) fun _ =>
    .bind (.of_preserves (.modify fun _ => rfl)) fun _ => .pure _

theorem grows_sendChunks (r : Request) (chunks : List String) : Grows (sendChunks r chunks) :=
  (grows_record _).bind fun _ => .bind (.of_emits (emits_callChunks _ _ _ _ _)) fun _ =>
    .bind (.of_preserves (silent_setUsage _)) fun _ => .pure _

theorem grows_call (r : Request) : Grows (call r) := by
  refine grows_theManager.bind fun _ => (grows_counting _).bind fun _ => .ite (.of_emits (emits_callOnce r)) ?_
  refine grows_theManager.bind fun _ => (grows_counting _).bind fun _ => grows_theManager.bind fun _ => ?_
  exact .bind (grows_theManager.bind fun _ => grows_counting _) fun _ => grows_sendChunks r _

end IssuePlanner.Model
