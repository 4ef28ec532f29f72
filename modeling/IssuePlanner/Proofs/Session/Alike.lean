import IssuePlanner.Proofs.Model.Residue
import IssuePlanner.Proofs.Session.Frame
import IssuePlanner.Session.Basic

/-! Two runs side by side. Sessions are `Alike` if they differ at most in their settings, apart from the model, and in what
their managers remember. Actions `Agree` if they do the same on sessions that are alike and leave them alike. -/

namespace IssuePlanner.Action

open Model

/-- What a session shows without its settings, apart from the model, and without what its manager remembers. -/
def scene (s : Session) : Session × Option Provision :=
  ({ s with settings := { model := s.settings.model }, manager := none }, s.manager.map Manager.provision)

/-- Two sessions with a client listen to the same scene, with the modes `x` and `y` in their settings. If it still counts,
the usage that their managers have on record has the same effect. -/
structure Alike (x y : Option String) (counts : Bool) (s t : Session) : Prop where
  scene : scene s = scene t
  attended : s.attended = true
  left : s.settings.reasoning = x
  right : t.settings.reasoning = y
  usage : counts = true → SameEffect (managerOf s).lastUsage (managerOf t).lastUsage

variable {α β γ : Type} {x y : Option String} {c c' c'' : Bool} {s t : Session}

namespace Alike

theorem provision (h : Alike x y c s t) : (managerOf s).provision = (managerOf t).provision := by
  have hprovision (s : Session) : (managerOf s).provision = (Action.scene s).2.getD ({} : Manager).provision := by
    rw [Action.scene, managerOf]
    cases s.manager <;> rfl
  rw [hprovision, hprovision, h.scene]

theorem isNone_manager (h : Alike x y c s t) : s.manager.isNone = t.manager.isNone := by
  have hmanager := congrArg (fun p : Session × Option Provision => p.2.isNone) h.scene
  simpa only [Action.scene, Option.isNone_map] using hmanager

theorem read (h : Alike x y c s t) (g : Session → γ)
    (hg : ∀ s, g { s with settings := { model := s.settings.model }, manager := none } = g s) : g s = g t := by
  have hscene := congrArg (fun p : Session × Option Provision => g p.1) h.scene
  simp only [Action.scene, hg] at hscene
  exact hscene

theorem weaken (h : Alike x y c s t) (hc : c' = true → c = true) : Alike x y c' s t :=
  { h with usage := fun hc' => h.usage (hc hc') }

end Alike

/-- A change of sessions that goes by the scene and concerns neither the modes nor the managers. -/
structure Incidental (f : Session → Session) : Prop where
  scene : ∃ g : Session × Option Provision → Session × Option Provision, ∀ s, scene (f s) = g (scene s)
  attended : ∀ s, (f s).attended = s.attended
  reasoning : ∀ s, (f s).settings.reasoning = s.settings.reasoning
  manager : ∀ s, (f s).manager = s.manager

theorem Incidental.alike {f : Session → Session} (hf : Incidental f) (h : Alike x y c s t) :
    Alike x y c (f s) (f t) where
  scene := by
    obtain ⟨g, hg⟩ := hf.scene
    rw [hg, hg, h.scene]
  attended := (hf.attended s).trans h.attended
  left := (hf.reasoning s).trans h.left
  right := (hf.reasoning t).trans h.right
  usage hc := by
    rw [managerOf, managerOf, hf.manager, hf.manager]
    exact h.usage hc

theorem cases_of_outcome {p q : Except Failure α × Session} (h : p.1 = q.1) :
    (∃ e s t, p = (.error e, s) ∧ q = (.error e, t)) ∨ ∃ a s t, p = (.ok a, s) ∧ q = (.ok a, t) := by
  obtain ⟨out, s⟩ := p
  obtain ⟨out', t⟩ := q
  cases h
  cases out with
  | error e => exact .inl ⟨e, s, t, rfl, rfl⟩
  | ok a => exact .inr ⟨a, s, t, rfl, rfl⟩

/-- On sessions that are alike the actions have the same outcome and leave sessions that are alike. The usage on record
counts before if `c` says so, and afterwards if `c'` does. -/
def Agree (x y : Option String) (c c' : Bool) (act act' : Action α) : Prop :=
  ∀ s t, Alike x y c s t → (perform act s).1 = (perform act' t).1 ∧ Alike x y c' (perform act s).2 (perform act' t).2

namespace Agree

protected theorem pure (a : α) : Agree x y c c (pure a) (pure a) := fun _ _ h => ⟨rfl, h⟩

protected theorem throw (e : Failure) : Agree x y c c (throw e : Action α) (throw e) := fun _ _ h => ⟨rfl, h⟩

theorem throw_bind (e : Failure) (f f' : α → Action β) : Agree x y c c (throw e >>= f) (throw e >>= f') :=
  fun _ _ h => ⟨rfl, h⟩

protected theorem ofExcept (z : Except Failure α) : Agree x y c c (ofExcept z : Action α) (ofExcept z) := by
  intro s t h
  rw [perform_ofExcept, perform_ofExcept]
  exact ⟨rfl, h⟩

theorem weaken {act act' : Action α} (h : Agree x y c c' act act') (hc : c'' = true → c' = true) :
    Agree x y c c'' act act' :=
  fun s t hst => ⟨(h s t hst).1, (h s t hst).2.weaken hc⟩

/-- Two actions in a row. What counts in the end has to count in between, where the first action may fail. -/
theorem bind_of_imp {act act' : Action α} {f f' : α → Action β} (h : Agree x y c c' act act')
    (hf : ∀ a, Agree x y c' c'' (f a) (f' a)) (hc : c'' = true → c' = true) :
    Agree x y c c'' (act >>= f) (act' >>= f') := by
  intro s t hst
  obtain ⟨hout, halike⟩ := h s t hst
  rw [perform_bind, perform_bind]
  rcases cases_of_outcome hout with ⟨e, s₁, t₁, hs, ht⟩ | ⟨a, s₁, t₁, hs, ht⟩
  · rw [hs, ht] at halike ⊢
    exact ⟨rfl, halike.weaken hc⟩
  · rw [hs, ht] at halike ⊢
    exact hf a s₁ t₁ halike

protected theorem bind {act act' : Action α} {f f' : α → Action β} (h : Agree x y c c' act act')
    (hf : ∀ a, Agree x y c' c' (f a) (f' a)) : Agree x y c c' (act >>= f) (act' >>= f') :=
  h.bind_of_imp hf id

theorem bind_loose {act act' : Action α} {f f' : α → Action β} (h : Agree x y c c' act act')
    (hf : ∀ a, Agree x y c' false (f a) (f' a)) : Agree x y c false (act >>= f) (act' >>= f') :=
  h.bind_of_imp hf fun hc => by cases hc

protected theorem map {act act' : Action α} (f : α → β) (h : Agree x y c c' act act') :
    Agree x y c c' (f <$> act) (f <$> act') := by
  intro s t hst
  obtain ⟨hout, halike⟩ := h s t hst
  rw [perform_map, perform_map, hout]
  exact ⟨rfl, halike⟩

protected theorem tryCatch {act act' : Action α} {f f' : Failure → Action α} (h : Agree x y c c' act act')
    (hf : ∀ e, Agree x y c' c' (f e) (f' e)) : Agree x y c c' (tryCatch act f) (tryCatch act' f') := by
  intro s t hst
  obtain ⟨hout, halike⟩ := h s t hst
  rw [perform_tryCatch, perform_tryCatch]
  rcases cases_of_outcome hout with ⟨e, s₁, t₁, hs, ht⟩ | ⟨a, s₁, t₁, hs, ht⟩
  · rw [hs, ht] at halike ⊢
    exact hf e s₁ t₁ halike
  · rw [hs, ht] at halike ⊢
    exact ⟨rfl, halike⟩

protected theorem during {act act' : Action α} (h : Agree x y c c' act act') (stage : Stage) :
    Agree x y c c' (during stage act) (during stage act') :=
  h.tryCatch fun _ => .throw _

protected theorem ite {p : Prop} [Decidable p] {a a' b b' : Action α} (ha : Agree x y c c' a a')
    (hb : Agree x y c c' b b') : Agree x y c c' (if p then a else b) (if p then a' else b') := by
  split
  · exact ha
  · exact hb

theorem get_bind {k k' : Session → Action α} (h : ∀ s t, Alike x y c s t → Agree x y c c' (k s) (k' t)) :
    Agree x y c c' (get >>= k) (get >>= k') := by
  intro s t hst
  rw [perform_bind, perform_bind, perform_get, perform_get, andThen_ok, andThen_ok]
  exact h s t hst s t hst

protected theorem modify {f : Session → Session} (hf : Incidental f) :
    Agree x y c c (modify f : Action Unit) (modify f) :=
  fun _ _ h => ⟨rfl, hf.alike h⟩

protected theorem set (h : Alike x y c' s t) : Agree x y c c' (set s : Action Unit) (set t) :=
  fun _ _ _ => ⟨rfl, h⟩

end Agree

/-! ### Messages and the switch -/

theorem incidental_record (e : Event) : Incidental fun s => { s with trace := e :: s.trace } :=
  ⟨⟨fun p => ({ p.1 with trace := e :: p.1.trace }, p.2), fun _ => rfl⟩, fun _ => rfl, fun _ => rfl, fun _ => rfl⟩

theorem agree_record (e : Event) : Agree x y c c (record e) (record e) := .modify (incidental_record e)

theorem agree_log (level message : String) : Agree x y c c (log level message) (log level message) := by
  refine .get_bind fun s t h => ?_
  rw [h.read Session.attended fun _ => rfl]
  exact .ite (agree_record _) (.pure ())

theorem agree_info (message : String) : Agree x y c c (info message) (info message) := agree_log _ _

theorem agree_setSearch (on on' : Bool) : Agree x y c c (setSearch on) (setSearch on') :=
  fun _ _ h => ⟨rfl, h.scene, h.attended, h.left, h.right, h.usage⟩

theorem agree_searchSetting_bind {k k' : Bool → Action α} (h : ∀ on on', Agree x y c c' (k on) (k' on')) :
    Agree x y c c' (searchSetting >>= k) (searchSetting >>= k') := by
  simp only [searchSetting, bind_assoc, pure_bind]
  exact .get_bind fun s t _ => h _ _

theorem agree_suspendSearch_bind (disable : Bool) {k k' : Bool → Action α}
    (h : ∀ on on', Agree x y c false (k on) (k' on')) :
    Agree x y c false (suspendSearch disable >>= k) (suspendSearch disable >>= k') := by
  simp only [suspendSearch, bind_assoc]
  refine agree_searchSetting_bind fun on on' => ?_
  cases disable with
  | false => exact h on on'
  | true =>
    simp only [if_true, bind_assoc, pure_bind]
    exact (agree_setSearch _ _).bind_loose fun _ => (agree_info _).bind_loose fun _ => h on on'

theorem agree_restoreSearch (disable on on' : Bool) :
    Agree x y c c (restoreSearch disable on) (restoreSearch disable on') :=
  .ite (agree_setSearch _ _) (.pure ())

end IssuePlanner.Action
