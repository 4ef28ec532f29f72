import IssuePlanner.Proofs.Session.Run
import IssuePlanner.Proofs.Tokens.Outlook
import IssuePlanner.Session.Command

/-! What actions leave as it is. An action `Preserves` a view of the session if the view shows the same afterwards,
whatever the outcome, and `Commits` a change of the view if it makes the change on success only. Talking to programs,
models and the client changes what they will say next, the clock and the record of what was said; everything else
stands (`Steady`). -/

namespace IssuePlanner

/-- What a manager brings to a call: its clients, its settings and what its counter makes of models. -/
structure Model.Provision where
  hasOpenai : Bool
  hasGemini : Bool
  settings : Model.Settings
  outlook : Tokens.Config × (String → Except Failure Tokens.Encoding)

def Model.Manager.provision (m : Model.Manager) : Model.Provision :=
  ⟨m.hasOpenai, m.hasGemini, m.settings, m.counter.outlook⟩

theorem Tokens.Counter.OnlyCounts.provision {α : Type} {f : Tokens.Counter → Except Failure (α × Tokens.Counter)}
    (hf : Tokens.Counter.OnlyCounts f) {m : Model.Manager} {a : α} {c : Tokens.Counter}
    (h : f m.counter = .ok (a, c)) : ({ m with counter := c } : Model.Manager).provision = m.provision := by
  have houtlook : c.outlook = m.counter.outlook := hf.keeps h
  rw [Model.Manager.provision, houtlook]
  rfl

namespace Action

variable {α β γ δ : Type} {view : Session → γ} {G G' : γ → γ → Prop} {g : γ → γ} {s : Session}

/-- The action leaves what a view shows as it is. -/
def Preserves (view : Session → γ) (act : Action α) : Prop := ∀ s, view (perform act s).2 = view s

namespace Preserves

protected theorem pure (a : α) : Preserves view (pure a) := fun _ => rfl

protected theorem throw (e : Failure) : Preserves view (throw e : Action α) := fun _ => rfl

theorem throw_bind (e : Failure) (f : α → Action β) : Preserves view (throw e >>= f) := fun _ => rfl

protected theorem get : Preserves view get := fun _ => rfl

protected theorem ofExcept (x : Except Failure α) : Preserves view (ofExcept x : Action α) := fun s => by
  rw [perform_ofExcept]

protected theorem modify {f : Session → Session} (h : ∀ s, view (f s) = view s) :
    Preserves view (modify f : Action Unit) := h

protected theorem bind {act : Action α} {f : α → Action β} (h : Preserves view act) (hf : ∀ a, Preserves view (f a)) :
    Preserves view (act >>= f) := by
  intro s
  have hs := h s
  rw [perform_bind]
  rcases hact : perform act s with ⟨e | a, s'⟩
  · rw [hact] at hs
    exact hs
  · rw [hact] at hs
    exact (hf a s').trans hs

protected theorem map {act : Action α} (f : α → β) (h : Preserves view act) : Preserves view (f <$> act) := by
  intro s
  rw [perform_map]
  exact h s

protected theorem tryCatch {act : Action α} {f : Failure → Action α} (h : Preserves view act)
    (hf : ∀ e, Preserves view (f e)) : Preserves view (tryCatch act f) := by
  intro s
  have hs := h s
  rw [perform_tryCatch]
  rcases hact : perform act s with ⟨e | a, s'⟩
  · rw [hact] at hs
    exact (hf e s').trans hs
  · rw [hact] at hs
    exact hs

protected theorem ite {c : Prop} [Decidable c] {a b : Action α} (ha : Preserves view a) (hb : Preserves view b) :
    Preserves view (if c then a else b) := by
  split
  · exact ha
  · exact hb

/-- Something that is done only under a condition, before the rest. -/
theorem ite_bind {c : Prop} [Decidable c] {act : Action Unit} {k : Unit → Action α} (h : Preserves view act)
    (hk : ∀ u, Preserves view (k u)) : Preserves view (if c then act >>= k else k ()) :=
  .ite (h.bind hk) (hk ())

protected theorem forM {f : β → Action Unit} {bs : List β} (h : ∀ b ∈ bs, Preserves view (f b)) :
    Preserves view (bs.forM f) := by
  induction bs with
  | nil => exact .pure ()
  | cons b bs ih => exact (h b (by simp)).bind fun _ => ih fun b' hb' => h b' (by simp [hb'])

protected theorem forIn {f : β → α → Action (ForInStep α)} (h : ∀ b a, Preserves view (f b a)) (bs : List β) (a : α) :
    Preserves view (forIn bs a f) := by
  induction bs generalizing a with
  | nil => exact .pure a
  | cons b bs ih =>
    rw [List.forIn_cons]
    refine (h b a).bind fun step => ?_
    cases step with
    | done a' => exact .pure a'
    | yield a' => exact ih a'

theorem view_bind {f : α → Action β} (hf : ∀ a, Preserves view (f a)) (act : Action α) (s : Session) :
    view (perform (act >>= f) s).2 = view (perform act s).2 := by
  rw [perform_bind]
  rcases perform act s with ⟨e | a, s'⟩
  · rfl
  · exact hf a s'

theorem view_tryCatch {f : Failure → Action α} (hf : ∀ e, Preserves view (f e)) (act : Action α) (s : Session) :
    view (perform (tryCatch act f) s).2 = view (perform act s).2 := by
  rw [perform_tryCatch]
  rcases perform act s with ⟨e | a, s'⟩
  · exact hf e s'
  · rfl

theorem comp {act : Action α} (h : Preserves view act) (f : γ → δ) : Preserves (fun s => f (view s)) act :=
  fun s => congrArg f (h s)

end Preserves

/-! ### How an action ends -/

/-- From this session the action succeeds with a result and a session of which `P` holds, or it fails with `Q`. -/
def Gives (act : Action α) (s : Session) (P : α → Session → Prop) (Q : Failure → Session → Prop) : Prop :=
  match perform act s with
  | (.ok a, s') => P a s'
  | (.error e, s') => Q e s'

/-- From this session the action succeeds with `P`, or it fails with `Q`. -/
def Ends (act : Action α) (s : Session) (P Q : Session → Prop) : Prop :=
  match perform act s with
  | (.ok _, s') => P s'
  | (.error _, s') => Q s'

/-- The action succeeds and changes a view in a known way. -/
def Sets (view : Session → γ) (g : γ → γ) (act : Action α) : Prop :=
  ∀ s, ∃ a s', perform act s = (.ok a, s') ∧ view s' = g (view s)

/-- On success the views before and after are related. A failure leaves the view as it is. -/
def Commits (view : Session → γ) (G : γ → γ → Prop) (act : Action α) : Prop :=
  ∀ s, Ends act s (fun s' => G (view s) (view s')) fun s' => view s' = view s

namespace Gives

variable {act : Action α} {P P' : α → Session → Prop} {Q Q' : Failure → Session → Prop} {R : β → Session → Prop}

theorem iff_forall : Gives act s P Q ↔
    (∀ a s', perform act s = (.ok a, s') → P a s') ∧ ∀ e s', perform act s = (.error e, s') → Q e s' := by
  unfold Gives
  rcases perform act s with ⟨e | a, s'⟩
  · simp
  · simp

theorem mono (h : Gives act s P Q) (hP : ∀ a t, P a t → P' a t) (hQ : ∀ e t, Q e t → Q' e t) : Gives act s P' Q' := by
  rw [iff_forall] at h ⊢
  exact ⟨fun a t ha => hP a t (h.1 a t ha), fun e t he => hQ e t (h.2 e t he)⟩

protected theorem bind {f : α → Action β} (h : Gives act s P Q) (hf : ∀ a t, P a t → Gives (f a) t R Q) :
    Gives (act >>= f) s R Q := by
  unfold Gives at h ⊢
  rw [perform_bind]
  rcases hact : perform act s with ⟨e | a, s'⟩
  · rw [hact] at h
    exact h
  · rw [hact] at h
    exact hf a s' h

theorem bind_of_ok {f : α → Action β} {a : α} {s' : Session} (hact : perform act s = (.ok a, s'))
    (h : Gives (f a) s' R Q) : Gives (act >>= f) s R Q := by
  unfold Gives
  rw [perform_bind, hact]
  exact h

theorem bind_of_error {f : α → Action β} {e : Failure} {s' : Session} (hact : perform act s = (.error e, s'))
    (h : Q e s') : Gives (act >>= f) s R Q := by
  unfold Gives
  rw [perform_bind, hact]
  exact h

protected theorem tryCatch {f : Failure → Action α} (h : Gives act s P Q) (hf : ∀ e t, Q e t → Gives (f e) t P Q') :
    Gives (tryCatch act f) s P Q' := by
  unfold Gives at h ⊢
  rw [perform_tryCatch]
  rcases hact : perform act s with ⟨e | a, s'⟩
  · rw [hact] at h
    exact hf e s' h
  · rw [hact] at h
    exact h

protected theorem during {stage : Stage} (h : Gives act s P Q) (hQ : ∀ e t, Q e t → Q' (.during stage e) t) :
    Gives (during stage act) s P Q' :=
  h.tryCatch hQ

theorem of_snd {S : Session → Prop} (h : S (perform act s).2) : Gives act s (fun _ => S) fun _ => S := by
  unfold Gives
  rcases hact : perform act s with ⟨e | a, s'⟩
  · rw [hact] at h
    exact h
  · rw [hact] at h
    exact h

theorem snd {S : Session → Prop} (h : Gives act s (fun _ => S) fun _ => S) : S (perform act s).2 := by
  unfold Gives at h
  rcases hact : perform act s with ⟨e | a, s'⟩
  · rw [hact] at h
    exact h
  · rw [hact] at h
    exact h

theorem bind_preserves {f : α → Action β} (h : Preserves view act) (hQ : ∀ e t, view t = view s → Q e t)
    (hf : ∀ a t, view t = view s → Gives (f a) t R Q) : Gives (act >>= f) s R Q :=
  ((of_snd (S := fun t => view t = view s) (h s)).mono (fun _ _ ht => ht) hQ).bind hf

/-- A step that is taken only under a condition and leaves a view as it is, before the rest. -/
theorem ite_bind_preserves {c : Prop} [Decidable c] {step : Action Unit} {f : Unit → Action β}
    (h : Preserves view step) (hQ : ∀ e t, view t = view s → Q e t)
    (hf : ∀ u t, view t = view s → Gives (f u) t R Q) : Gives (if c then step >>= f else f ()) s R Q := by
  split
  · exact bind_preserves h hQ hf
  · exact hf () s rfl

end Gives

theorem Ends.mono {act : Action α} {P Q P' Q' : Session → Prop} (h : Ends act s P Q) (hP : ∀ t, P t → P' t)
    (hQ : ∀ t, Q t → Q' t) : Ends act s P' Q' :=
  Gives.mono h (fun _ => hP) fun _ => hQ

theorem Ends.snd {act : Action α} {P : Session → Prop} (h : Ends act s P P) : P (perform act s).2 := Gives.snd h

theorem Ends.of_snd {act : Action α} {P : Session → Prop} (h : P (perform act s).2) : Ends act s P P := Gives.of_snd h

theorem Ends.bind {act : Action α} {f : α → Action β} {P Q P' : Session → Prop} (h : Ends act s P Q)
    (hf : ∀ a t, P t → Ends (f a) t P' Q) : Ends (act >>= f) s P' Q :=
  Gives.bind h hf

theorem Ends.bind_of_ok {act : Action α} {f : α → Action β} {a : α} {s' : Session} {P Q : Session → Prop}
    (hact : perform act s = (.ok a, s')) (h : Ends (f a) s' P Q) : Ends (act >>= f) s P Q :=
  Gives.bind_of_ok hact h

theorem Ends.bind_of_error {act : Action α} {f : α → Action β} {e : Failure} {s' : Session} {P Q : Session → Prop}
    (hact : perform act s = (.error e, s')) (h : Q s') : Ends (act >>= f) s P Q :=
  Gives.bind_of_error hact h

theorem Ends.tryCatch {act : Action α} {f : Failure → Action α} {P Q Q' : Session → Prop} (h : Ends act s P Q)
    (hf : ∀ e t, Q t → Ends (f e) t P Q') : Ends (tryCatch act f) s P Q' :=
  Gives.tryCatch h hf

theorem Ends.during {act : Action α} {P Q : Session → Prop} (h : Ends act s P Q) (stage : Stage) :
    Ends (during stage act) s P Q :=
  h.tryCatch fun _ _ hQ => hQ

theorem Preserves.ends {act : Action α} (h : Preserves view act) (s : Session) :
    Ends act s (fun s' => view s' = view s) fun s' => view s' = view s :=
  .of_snd (h s)

theorem Ends.bind_preserves {act : Action α} {f : α → Action β} {P Q : Session → Prop} (h : Preserves view act)
    (hQ : ∀ t, view t = view s → Q t) (hf : ∀ a t, view t = view s → Ends (f a) t P Q) : Ends (act >>= f) s P Q :=
  Gives.bind_preserves h (fun _ => hQ) hf

theorem Preserves.bind_commits {act : Action α} {f : α → Action β} (h : Preserves view act)
    (hf : ∀ a, Commits view G (f a)) : Commits view G (act >>= f) := by
  intro s
  refine (h.ends s).bind fun a t ht => ?_
  have hend := hf a t
  rwa [ht] at hend

theorem Sets.ends {act : Action α} (h : Sets view g act) (s : Session) (Q : Session → Prop) :
    Ends act s (fun s' => view s' = g (view s)) Q := by
  obtain ⟨a, s', hrun, hview⟩ := h s
  unfold Ends
  rw [hrun]
  exact hview

theorem Sets.preserves {act : Action α} (h : Sets view id act) : Preserves view act := by
  intro s
  obtain ⟨a, s', hrun, hview⟩ := h s
  rw [hrun]
  exact hview

theorem Sets.commits {act : Action α} (h : Sets view g act) : Commits view (fun x y => y = g x) act :=
  fun s => h.ends s _

theorem Commits.mono {act : Action α} (h : Commits view G act) (hG : ∀ x y, G x y → G' x y) : Commits view G' act :=
  fun s => (h s).mono (fun _ ht => hG _ _ ht) fun _ ht => ht

protected theorem Commits.during {act : Action α} (h : Commits view G act) (stage : Stage) :
    Commits view G (during stage act) :=
  fun s => (h s).during stage

theorem Commits.bind_sets {act : Action α} {f : α → Action β} (h : Commits view G act) (hf : ∀ a, Sets view g (f a))
    (hG : ∀ x y, G x y → G' x (g y)) : Commits view G' (act >>= f) := by
  intro s
  refine (h s).bind fun a t ht => ((hf a).ends t _).mono (fun t' ht' => ?_) fun _ h => h
  rw [ht']
  exact hG _ _ ht

namespace Sets

protected theorem pure (a : α) : Sets view id (pure a : Action α) := fun s => ⟨a, s, rfl, rfl⟩

protected theorem get : Sets view id get := fun s => ⟨s, s, rfl, rfl⟩

protected theorem bind {act : Action α} {f : α → Action β} (h : Sets view g act) (hf : ∀ a, Sets view id (f a)) :
    Sets view g (act >>= f) := by
  intro s
  obtain ⟨a, s₁, hrun, hview⟩ := h s
  obtain ⟨b, s₂, hrun', hview'⟩ := hf a s₁
  exact ⟨b, s₂, by rw [perform_bind, hrun, andThen_ok, hrun'], hview'.trans hview⟩

theorem bind_pure {act : Action α} (h : Sets view g act) (f : α → β) : Sets view g (act >>= fun a => pure (f a)) :=
  h.bind fun _ => .pure _

protected theorem ite {c : Prop} [Decidable c] {a b : Action α} (ha : Sets view g a) (hb : Sets view g b) :
    Sets view g (if c then a else b) := by
  split
  · exact ha
  · exact hb

end Sets

theorem Gives.bind_sets {act : Action α} {f : α → Action β} {R : β → Session → Prop} {Q : Failure → Session → Prop}
    (h : Sets view id act) (hf : ∀ a t, view t = view s → Gives (f a) t R Q) : Gives (act >>= f) s R Q := by
  obtain ⟨a, s', hrun, hview⟩ := h s
  exact .bind_of_ok hrun (hf a s' hview)

/-- The action never fails. -/
abbrev Succeeds (act : Action α) : Prop := Sets (fun _ => ()) id act

theorem succeeds_tryCatch {act : Action α} {f : Failure → Action α} (hf : ∀ e, Succeeds (f e)) :
    Succeeds (tryCatch act f) := by
  intro s
  rw [perform_tryCatch]
  rcases perform act s with ⟨e | a, s'⟩
  · exact hf e s'
  · exact ⟨a, s', rfl, rfl⟩

/-- A view does not show the messages to the client. -/
def Logless (view : Session → γ) : Prop :=
  ∀ s level message, view { s with trace := .log level message :: s.trace } = view s

theorem Logless.sets_log (h : Logless view) (level message : String) : Sets view id (log level message) := by
  intro s
  rw [log, perform_bind, perform_get, andThen_ok]
  cases s.attended with
  | false => exact ⟨(), s, rfl, rfl⟩
  | true => exact ⟨(), _, rfl, h s level message⟩

theorem Logless.sets_info (h : Logless view) (message : String) : Sets view id (info message) := h.sets_log _ _

theorem succeeds_log (level message : String) : Succeeds (log level message) := Logless.sets_log (fun _ _ _ => rfl) _ _

theorem succeeds_info (message : String) : Succeeds (info message) := succeeds_log _ _

/-! ### The trace -/

/-- The action may add to the trace, and takes nothing away. -/
def Grows (act : Action α) : Prop := ∀ s, s.trace <:+ (perform act s).2.trace

namespace Grows

theorem of_preserves {act : Action α} (h : Preserves Session.trace act) : Grows act := fun s => ⟨[], (h s).symm⟩

theorem of_emits {act : Action α} {P : List Event → Except Failure α → Prop} (h : Emits act P) : Grows act := by
  intro s
  obtain ⟨evs, htrace, -⟩ := h s
  exact ⟨evs.reverse, htrace.symm⟩

protected theorem pure (a : α) : Grows (pure a) := .of_preserves (.pure a)

protected theorem throw (e : Failure) : Grows (throw e : Action α) := .of_preserves (.throw e)

protected theorem get : Grows get := .of_preserves .get

protected theorem bind {act : Action α} {f : α → Action β} (h : Grows act) (hf : ∀ a, Grows (f a)) :
    Grows (act >>= f) := by
  intro s
  have hs := h s
  rw [perform_bind]
  rcases hact : perform act s with ⟨e | a, s'⟩
  · rw [hact] at hs
    exact hs
  · rw [hact] at hs
    exact hs.trans (hf a s')

protected theorem tryCatch {act : Action α} {f : Failure → Action α} (h : Grows act) (hf : ∀ e, Grows (f e)) :
    Grows (tryCatch act f) := by
  intro s
  have hs := h s
  rw [perform_tryCatch]
  rcases hact : perform act s with ⟨e | a, s'⟩
  · rw [hact] at hs
    exact hs.trans (hf e s')
  · rw [hact] at hs
    exact hs

protected theorem ite {c : Prop} [Decidable c] {a b : Action α} (ha : Grows a) (hb : Grows b) :
    Grows (if c then a else b) := by
  split
  · exact ha
  · exact hb

theorem ends {act : Action α} (h : Grows act) {evs : List Event} (hs : evs <:+ s.trace) :
    Ends act s (fun t => evs <:+ t.trace) fun t => evs <:+ t.trace :=
  .of_snd (hs.trans (h s))

end Grows

theorem grows_record (e : Event) : Grows (record e) := .of_emits (emits_record e)

theorem grows_log (level message : String) : Grows (log level message) :=
  Grows.get.bind fun _ => .ite (grows_record _) (.pure _)

theorem grows_info (message : String) : Grows (info message) := grows_log _ _

/-! ### Talking -/

/-- What stands in a session while it talks to programs, models and the client. -/
structure Standing where
  root : String
  name : String
  files : FileTree
  statusFault : String → Option FileFault
  setOrder : SetOrder
  faults : LibraryFaults
  provision : Model.Provision
  validator : Metadata.Validator
  symbolServer : String → ByteArray → Outline.SymbolServer
  symbolIndex : String → ByteArray → Option (List Outline.Script.Symbol)
  interpreter : Outline.Script.Interpreter
  attended : Bool
  settings : Settings
  channel : Channel
  clockStep : Int
  jobs : List Job

def standing (s : Session) : Standing :=
  ⟨s.root, s.name, s.files, s.statusFault, s.setOrder, s.faults, (s.manager.getD {}).provision, s.validator,
    s.symbolServer, s.symbolIndex, s.interpreter, s.attended, s.settings, s.channel, s.clockStep, s.jobs⟩

/-- The action does nothing but talk. -/
abbrev Steady (act : Action α) : Prop := Preserves standing act

/-- The settings of a session and the jobs to do. -/
def desk (s : Session) : Settings × List Job := (s.settings, s.jobs)

theorem Steady.desk {act : Action α} (h : Steady act) : Preserves desk act := h.comp fun st => (st.settings, st.jobs)

protected theorem Preserves.during {act : Action α} (h : Preserves view act) (stage : Stage) :
    Preserves view (during stage act) :=
  h.tryCatch fun _ => .throw _

protected theorem Preserves.decode (bytes : ByteArray) : Preserves view (decode bytes) := by
  unfold decode
  split
  · exact .pure _
  · exact .throw _

end Action

end IssuePlanner
