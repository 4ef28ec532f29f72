import IssuePlanner.Session.Basic
import Mathlib.Tactic.Common

/-! Running actions. `perform` gives the outcome of an action on a session and the session afterwards, and has
one equation for each way to build an action. `Emits act P` says that, whatever the session, `act` only adds
events to the trace, and that `P` holds of the added events, in the order in which they happened, and the
outcome. -/

namespace IssuePlanner.Action

variable {α β : Type}

/-- The outcome of an action on a session, and the session afterwards. -/
def perform (act : Action α) (s : Session) : Except Failure α × Session := act.run.run s

def andThen (f : α → Action β) : Except Failure α × Session → Except Failure β × Session
  | (.ok a, s) => perform (f a) s
  | (.error e, s) => (.error e, s)

def orElse (f : Failure → Action α) : Except Failure α × Session → Except Failure α × Session
  | (.ok a, s) => (.ok a, s)
  | (.error e, s) => perform (f e) s

@[simp] theorem andThen_ok (f : α → Action β) (a : α) (s : Session) :
    andThen f (.ok a, s) = perform (f a) s := rfl

@[simp] theorem andThen_error (f : α → Action β) (e : Failure) (s : Session) :
    andThen f (.error e, s) = (.error e, s) := rfl

@[simp] theorem orElse_ok (f : Failure → Action α) (a : α) (s : Session) :
    orElse f (.ok a, s) = (.ok a, s) := rfl

@[simp] theorem orElse_error (f : Failure → Action α) (e : Failure) (s : Session) :
    orElse f (.error e, s) = perform (f e) s := rfl

@[simp] theorem perform_pure (a : α) (s : Session) : perform (pure a) s = (.ok a, s) := rfl

@[simp] theorem perform_throw (e : Failure) (s : Session) :
    perform (throw e : Action α) s = (.error e, s) := rfl

@[simp] theorem perform_get (s : Session) : perform (get : Action Session) s = (.ok s, s) := rfl

@[simp] theorem perform_set (s t : Session) : perform (set t : Action Unit) s = (.ok (), t) := rfl

@[simp] theorem perform_modify (f : Session → Session) (s : Session) :
    perform (modify f : Action Unit) s = (.ok (), f s) := rfl

@[simp] theorem perform_record (e : Event) (s : Session) :
    perform (record e) s = (.ok (), { s with trace := e :: s.trace }) := rfl

@[simp] theorem perform_ofExcept (x : Except Failure α) (s : Session) :
    perform (ofExcept x : Action α) s = (x, s) := by
  cases x <;> rfl

@[simp] theorem perform_bind (act : Action α) (f : α → Action β) (s : Session) :
    perform (act >>= f) s = andThen f (perform act s) := by
  unfold perform
  simp only [ExceptT.run_bind, StateT.run_bind]
  rcases act.run.run s with ⟨_ | _, _⟩
  · rfl
  · rfl

theorem exists_of_perform_bind {act : Action α} {f : α → Action β} {b : β} {s s' : Session}
    (h : perform (act >>= f) s = (.ok b, s')) :
    ∃ a s₁, perform act s = (.ok a, s₁) ∧ perform (f a) s₁ = (.ok b, s') := by
  rw [perform_bind] at h
  rcases hact : perform act s with ⟨e | a, s₁⟩
  · rw [hact] at h
    cases h
  · rw [hact] at h
    exact ⟨a, s₁, rfl, h⟩

@[simp] theorem perform_map (f : α → β) (act : Action α) (s : Session) :
    perform (f <$> act) s = ((perform act s).1.map f, (perform act s).2) := by
  rw [map_eq_pure_bind, perform_bind]
  rcases perform act s with ⟨_ | _, _⟩
  · rfl
  · rfl

@[simp] theorem perform_tryCatch (act : Action α) (f : Failure → Action α) (s : Session) :
    perform (tryCatch act f) s = orElse f (perform act s) := by
  have hrun : StateT.run act s = perform act s := rfl
  change StateT.run (ExceptT.run (ExceptT.tryCatch act f)) s = _
  unfold ExceptT.tryCatch
  simp only [ExceptT.run_mk, StateT.run_bind, hrun]
  rcases perform act s with ⟨_ | _, _⟩
  · rfl
  · rfl

/-- Something that is done only under a condition, with the rest cut in two. -/
theorem ite_bind_congr {c : Prop} [Decidable c] {act : Action Unit} {k : Unit → Action α}
    {first : Unit → Action β} {rest : β → Action α} (h : ∀ u, k u = first u >>= rest) :
    (if c then act >>= k else k ()) = (if c then act >>= first else first ()) >>= rest := by
  split
  · rw [bind_assoc]
    exact bind_congr h
  · exact h ()

/-! ### What an action adds to the trace -/

/-- Whatever the session, the action adds events of which `P` holds together with the outcome. -/
def Emits (act : Action α) (P : List Event → Except Failure α → Prop) : Prop :=
  ∀ s, ∃ evs, (perform act s).2.trace = evs.reverse ++ s.trace ∧ P evs (perform act s).1

/-- The action adds nothing to the trace. -/
def Silent (act : Action α) : Prop := ∀ s, (perform act s).2.trace = s.trace

variable {P Q : List Event → Except Failure α → Prop} {R : List Event → Except Failure β → Prop}

theorem Emits.mono {act : Action α} (h : Emits act P) (hpq : ∀ evs out, P evs out → Q evs out) :
    Emits act Q := by
  intro s
  obtain ⟨evs, ht, hp⟩ := h s
  exact ⟨evs, ht, hpq _ _ hp⟩

theorem Silent.emits {act : Action α} (h : Silent act) : Emits act fun evs _ => evs = [] :=
  fun s => ⟨[], h s, rfl⟩

theorem emits_record (e : Event) : Emits (record e) fun evs out => evs = [e] ∧ out = .ok () :=
  fun _ => ⟨[e], rfl, rfl, rfl⟩

theorem emits_throw (e : Failure) : Emits (throw e : Action α) fun evs out => evs = [] ∧ out = .error e :=
  fun _ => ⟨[], rfl, rfl, rfl⟩

theorem emits_throw_bind (e : Failure) (f : α → Action β) :
    Emits (throw e >>= f) fun evs out => evs = [] ∧ out = .error e :=
  fun _ => ⟨[], rfl, rfl, rfl⟩

theorem Emits.bind {act : Action α} {f : α → Action β} (h : Emits act P)
    (herr : ∀ evs e, P evs (.error e) → R evs (.error e))
    (hok : ∀ a, Emits (f a) fun evs' out => ∀ evs, P evs (.ok a) → R (evs ++ evs') out) :
    Emits (act >>= f) R := by
  intro s
  obtain ⟨evs, ht, hp⟩ := h s
  rw [perform_bind]
  rcases hs : perform act s with ⟨e | a, t⟩
  · rw [hs] at ht hp
    exact ⟨evs, ht, herr evs e hp⟩
  · rw [hs] at ht hp
    obtain ⟨evs', ht', hq⟩ := hok a t
    refine ⟨evs ++ evs', ?_, hq evs hp⟩
    rw [andThen_ok, ht', List.reverse_append, List.append_assoc, ← ht]

theorem Emits.tryCatch {act : Action α} {f : Failure → Action α} (h : Emits act P)
    (hok : ∀ evs a, P evs (.ok a) → Q evs (.ok a))
    (herr : ∀ e, Emits (f e) fun evs' out => ∀ evs, P evs (.error e) → Q (evs ++ evs') out) :
    Emits (tryCatch act f) Q := by
  intro s
  obtain ⟨evs, ht, hp⟩ := h s
  rw [perform_tryCatch]
  rcases hs : perform act s with ⟨e | a, t⟩
  · rw [hs] at ht hp
    obtain ⟨evs', ht', hq⟩ := herr e t
    refine ⟨evs ++ evs', ?_, hq evs hp⟩
    rw [orElse_error, ht', List.reverse_append, List.append_assoc, ← ht]
  · rw [hs] at ht hp
    exact ⟨evs, ht, hok evs a hp⟩

theorem silent_pure (a : α) : Silent (pure a) := fun _ => rfl

theorem silent_ofExcept (x : Except Failure α) : Silent (ofExcept x : Action α) := fun s => by simp

theorem Silent.bind {act : Action α} {f : α → Action β} (h : Silent act) (hf : ∀ a, Silent (f a)) :
    Silent (act >>= f) := by
  intro s
  have hs := h s
  rw [perform_bind]
  rcases hp : perform act s with ⟨e | a, t⟩
  · rw [hp] at hs
    exact hs
  · rw [hp] at hs
    exact (hf a t).trans hs

/-- The action only looks at the session. -/
def Reads (act : Action α) : Prop := ∀ s, ∃ a, perform act s = (.ok a, s)

theorem reads_get : Reads (get : Action Session) := fun s => ⟨s, rfl⟩

theorem Reads.silent {act : Action α} (h : Reads act) : Silent act := by
  intro s
  obtain ⟨a, ha⟩ := h s
  rw [ha]

theorem Reads.bind_emits {act : Action α} {f : α → Action β} (h : Reads act) (hf : ∀ a, Emits (f a) R) :
    Emits (act >>= f) R := by
  intro s
  obtain ⟨a, ha⟩ := h s
  rw [perform_bind, ha]
  exact hf a s

theorem Emits.bind_silent {act : Action α} {f : α → Action β} {E : List Event → Prop}
    (h : Emits act fun evs _ => E evs) (hf : ∀ a, Silent (f a)) : Emits (act >>= f) fun evs _ => E evs := by
  refine h.bind (fun evs e he => he) fun a => (hf a).emits.mono ?_
  rintro evs' out rfl evs he
  rwa [List.append_nil]

end IssuePlanner.Action
