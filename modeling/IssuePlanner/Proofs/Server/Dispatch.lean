import IssuePlanner.Proofs.Model.Course
import IssuePlanner.Proofs.Session.Frame
import IssuePlanner.Server.Startup

/-! The model that a server starts with. The name of the model decides which client a server starts with, and again which
client a call goes to. For the names that calls know the two choices agree, and the client is there. But a server also
starts with names that calls do not know, and then turns every call away (`started_model_is_turned_away_iff`). -/

namespace IssuePlanner

namespace Text

theorem begins_iff {text start : String} : begins text start = true ↔ start.toList <+: text.toList :=
  List.isPrefixOf_iff_prefix

theorem begins_trans {text start start' : String} (h : begins text start = true) (h' : begins start start' = true) :
    begins text start' = true :=
  begins_iff.2 ((begins_iff.1 h').trans (begins_iff.1 h))

theorem begins_total {text start start' : String} (h : begins text start = true) (h' : begins text start' = true) :
    begins start start' = true ∨ begins start' start = true := by
  rw [begins_iff, begins_iff]
  exact (List.prefix_or_prefix_of_prefix (begins_iff.1 h) (begins_iff.1 h')).symm

end Text

namespace Model

open IssuePlanner.Action Tokens

variable {s : Session} {r : Request}

def Reachable (model : String) : Prop := isOpenai model = true ∨ isGemini model = true

theorem encodingOf?_eq (c : Counter) (model : String) : c.encodingOf? model = (c.reading model).toOption := by
  rw [Counter.encodingOf?, Counter.reading, Library.reading, ← Counter.encoding]
  cases c.encoding model <;> rfl

theorem terms?_congr {m m' : Manager} (h : m.provision = m'.provision) (model : String) :
    m.terms? model = m'.terms? model := by
  simp only [Manager.provision, Provision.mk.injEq] at h
  obtain ⟨-, -, hsettings, houtlook⟩ := h
  have hreading : m.counter.reading = m'.counter.reading := congrArg Prod.snd houtlook
  rw [Manager.terms?, Manager.terms?, encodingOf?_eq, encodingOf?_eq, hreading, hsettings,
    Library.limit_congr houtlook]

theorem perform_call_of_fits {t : Terms} (ht : (managerOf s).terms? r.model = some t) (hfits : t.fits r = true) :
    ∃ c, perform (call r) s = perform (callOnce r) (recounted s c) ∧ (managerOf s).plan r = .ok none := by
  obtain ⟨he, hset, hlimit⟩ := encodingOf?_of_terms ht
  obtain ⟨c, hcount, -⟩ := Counter.fits_of_encoding he r.prompt.toList (managerOf s).settings.safetyMargin
  have htrue : (managerOf s).counter.fits r.model r.prompt.toList (managerOf s).settings.safetyMargin = .ok (true, c) := by
    rw [hcount, hset, hlimit]
    exact congrArg (fun b => Except.ok (b, c)) hfits
  refine ⟨c, ?_, ?_⟩
  · simp only [call, perform_bind, perform_theManager, andThen_ok,
      perform_counting_ok (fun c => c.fits r.model r.prompt.toList (managerOf s).settings.safetyMargin) htrue]
    rfl
  · rw [Manager.plan, htrue]
    rfl

/-- A call fails before anything is sent, because its model is unknown or there is no client for it. -/
def TurnedAway (r : Request) (s : Session) : Prop :=
  requests (perform (call r) s).2.trace = requests s.trace ∧
    ((perform (call r) s).1 = .error (.unknownModel r.model) ∨
      ∃ provider, (perform (call r) s).1 = .error (.clientMissing provider))

theorem sent_of_serves {t : Terms} (ht : (managerOf s).terms? r.model = some t) (hfits : t.fits r = true)
    (hs : Serves s r.model) :
    ∃ evs, (perform (call r) s).2.trace = evs.reverse ++ s.trace ∧ r.sent ∈ requests evs := by
  obtain ⟨-, -, hplan⟩ := perform_call_of_fits ht hfits
  obtain ⟨evs, htrace, hcarried⟩ := follows_call hs
  rw [hplan] at hcarried
  obtain ⟨k, hexchange, -⟩ := hcarried
  refine ⟨evs, htrace, ?_⟩
  rw [hexchange.requests_eq]
  exact List.mem_replicate.2 ⟨Nat.one_le_iff_ne_zero.1 hexchange.tried.pos, rfl⟩

theorem not_turnedAway_of_sent {evs : List Event} (htrace : (perform (call r) s).2.trace = evs.reverse ++ s.trace)
    (hsent : r.sent ∈ requests evs) : ¬ TurnedAway r s := by
  rintro ⟨hnone, -⟩
  rw [htrace, requests_append, List.append_left_eq_self] at hnone
  have hmem : r.sent ∈ requests evs.reverse := by
    rw [requests, List.filterMap_reverse]
    exact List.mem_reverse.2 hsent
  rw [hnone] at hmem
  cases hmem

theorem perform_retrying_of_error {act : Action Datum} {f : Failure} {s' : Session} (name : String)
    (h : perform act s = (.error f, s')) (hf : f.isRetryable = false) :
    perform (Retry.retrying name act) s = (.error f, s') := by
  change perform (tryCatch act _) s = _
  rw [perform_tryCatch, h, orElse_error, if_neg (by simp [hf]), perform_throw]

/-- A library that does not work is no reason to turn a call away. -/
theorem not_turnedAway_of_fault {t : Terms} (ht : (managerOf s).terms? r.model = some t) (hfits : t.fits r = true)
    (hopenai : isOpenai r.model = false) (hgemini : isGemini r.model = true) (hclient : (managerOf s).hasGemini = true)
    (hfault : s.faults.configClassMissing = true) : ¬ TurnedAway r s := by
  obtain ⟨c, hrun, -⟩ := perform_call_of_fits ht hfits
  have hattempt : perform (attemptGemini r) (recounted s c) = (.error .configClassMissing, recounted s c) := by
    have hfault' : (recounted s c).faults.configClassMissing = true := hfault
    simp only [attemptGemini, perform_bind, perform_theManager, andThen_ok, managerOf_recounted, hclient, Bool.not_true,
      Bool.false_eq_true, if_false, perform_get, hfault', if_true, perform_throw, andThen_error]
  have hcall : perform (call r) s = (.error .configClassMissing, recounted s c) := by
    rw [hrun, callOnce, if_neg (by simp [hopenai]), if_pos hgemini]
    exact perform_retrying_of_error _ hattempt (by decide +kernel)
  rintro ⟨-, hout⟩
  rw [hcall] at hout
  rcases hout with hout | ⟨_, hout⟩
  · cases hout
  · cases hout

theorem perform_call_of_not_reachable {t : Terms} (ht : (managerOf s).terms? r.model = some t) (hfits : t.fits r = true)
    (h : ¬ Reachable r.model) : ∃ c, perform (call r) s = (.error (.unknownModel r.model), recounted s c) := by
  obtain ⟨c, hrun, -⟩ := perform_call_of_fits ht hfits
  rw [Reachable, not_or] at h
  refine ⟨c, ?_⟩
  rw [hrun, callOnce, if_neg h.1, if_neg h.2]
  rfl

end Model

namespace Server

open IssuePlanner.Action Model

variable {place : Place} {env : Environment} {st : Started} {s : Session} {r : Model.Request} {model : String}

/-! ### Names of models -/

theorem needsOpenai_of_isOpenai (h : isOpenai model = true) : needsOpenai model = true := by
  simp only [isOpenai, List.any_cons, List.any_nil, Bool.or_false, Bool.or_eq_true] at h
  rw [needsOpenai, Bool.or_eq_true]
  rcases h with hgpt | hthree | hfour
  · exact .inl hgpt
  · exact .inr (Text.begins_trans hthree (by decide))
  · exact .inr (Text.begins_trans hfour (by decide))

theorem begins_eq_false {start start' : String} (h : Text.begins model start = true)
    (hne : (Text.begins start start' || Text.begins start' start) = false) : Text.begins model start' = false := by
  rw [Bool.eq_false_iff]
  intro h'
  rw [Bool.or_eq_false_iff] at hne
  rcases Text.begins_total h h' with hb | hb
  · rw [hb] at hne
    cases hne.1
  · rw [hb] at hne
    cases hne.2

theorem needsOpenai_of_isGemini (h : isGemini model = true) : needsOpenai model = false := by
  simp only [isGemini, List.any_cons, List.any_nil, Bool.or_false, Bool.or_eq_true] at h
  rw [needsOpenai, Bool.or_eq_false_iff]
  rcases h with hgemini | hmock
  · exact ⟨begins_eq_false hgemini (by decide), begins_eq_false hgemini (by decide)⟩
  · exact ⟨begins_eq_false hmock (by decide), begins_eq_false hmock (by decide)⟩

theorem isOpenai_of_isGemini (h : isGemini model = true) : isOpenai model = false := by
  rw [Bool.eq_false_iff]
  intro hopenai
  have hneeds := needsOpenai_of_isOpenai hopenai
  rw [needsOpenai_of_isGemini h] at hneeds
  cases hneeds

/-! ### Starting -/

/-- A server that starts has the client that the name of its model asks for, and no other. -/
theorem provision_of_startup (h : startup place env = .ok st) :
    st.manager.hasOpenai = needsOpenai st.model ∧ st.manager.hasGemini = !needsOpenai st.model := by
  unfold startup at h
  dsimp only at h
  split at h
  · cases h
  · split at h
    · cases h
    · cases h
      rw [Started.manager, Manager.ofSettings, providerOf]
      dsimp only
      cases needsOpenai env.modelName with
      | true => exact ⟨rfl, rfl⟩
      | false => exact ⟨rfl, rfl⟩

/-- The manager of a server has terms for every model: names of encodings that are unknown give way to the default. -/
theorem exists_terms (st : Started) (model : String) : ∃ t, st.manager.terms? model = some t := by
  have hdefault : Tokens.Library.standard.named st.manager.counter.config.defaultEncoding = .ok .cl100k := rfl
  have hreading : ∃ e, st.manager.counter.reading model = .ok e := by
    rw [Tokens.Counter.reading, Tokens.Library.reading_eq, Tokens.Library.resolve, hdefault]
    split
    · exact ⟨_, rfl⟩
    · split
      · exact ⟨_, rfl⟩
      · exact ⟨_, rfl⟩
  obtain ⟨e, he⟩ := hreading
  exact ⟨_, by rw [Manager.terms?, encodingOf?_eq, he]; rfl⟩

theorem serves_of_startup (h : startup place env = .ok st) (hs : (managerOf s).provision = st.manager.provision)
    (hreach : Reachable st.model) (hlibrary : isGemini st.model = true → s.faults.configClassMissing = false) :
    Serves s st.model := by
  obtain ⟨hopenai, hgemini⟩ := provision_of_startup h
  have hopenai' : (managerOf s).hasOpenai = needsOpenai st.model := (congrArg Provision.hasOpenai hs).trans hopenai
  have hgemini' : (managerOf s).hasGemini = !needsOpenai st.model := (congrArg Provision.hasGemini hs).trans hgemini
  unfold Serves
  split_ifs with hname
  · rw [hopenai', needsOpenai_of_isOpenai hname]
  · have hname' : isGemini st.model = true := hreach.resolve_left hname
    rw [hgemini', needsOpenai_of_isGemini hname']
    exact ⟨hname', rfl, hlibrary hname'⟩

/-- A call of the model that a server has started with, with a prompt that fits, is turned away exactly if calls do not
know the model, and then for its name and never for want of a client. If calls know the model and the library of its
client works, the request is sent. -/
theorem started_model_is_turned_away_iff (h : startup place env = .ok st) :
    ∃ t, st.manager.terms? st.model = some t ∧ ∀ (r : Model.Request) (s : Session), r.model = st.model →
      (managerOf s).provision = st.manager.provision → t.fits r = true →
      (TurnedAway r s ↔ ¬ Reachable st.model) ∧
      (TurnedAway r s → (perform (call r) s).1 = .error (.unknownModel st.model)) ∧
      (Reachable st.model → (isGemini st.model = true → s.faults.configClassMissing = false) →
        ∃ evs, (perform (call r) s).2.trace = evs.reverse ++ s.trace ∧ r.sent ∈ requests evs) := by
  obtain ⟨t, ht⟩ := exists_terms st st.model
  refine ⟨t, ht, fun r s hr hs hfits => ?_⟩
  have hterms : (managerOf s).terms? r.model = some t := by rw [terms?_congr hs, hr, ht]
  have hsent (hreach : Reachable st.model)
      (hlibrary : isGemini st.model = true → s.faults.configClassMissing = false) :
      ∃ evs, (perform (call r) s).2.trace = evs.reverse ++ s.trace ∧ r.sent ∈ requests evs := by
    refine sent_of_serves hterms hfits ?_
    rw [hr]
    exact serves_of_startup h hs hreach hlibrary
  have hreached (hreach : Reachable st.model) : ¬ TurnedAway r s := by
    by_cases hlibrary : isGemini st.model = true → s.faults.configClassMissing = false
    · obtain ⟨evs, htrace, hmem⟩ := hsent hreach hlibrary
      exact not_turnedAway_of_sent htrace hmem
    · rw [Classical.not_imp, Bool.not_eq_false] at hlibrary
      obtain ⟨hgemini, hfault⟩ := hlibrary
      have hneeds := needsOpenai_of_isGemini hgemini
      have hopenai : isOpenai st.model = false := by
        rw [Bool.eq_false_iff]
        intro hopenai
        rw [needsOpenai_of_isOpenai hopenai] at hneeds
        cases hneeds
      have hclient : (managerOf s).hasGemini = true := by
        rw [show (managerOf s).hasGemini = st.manager.hasGemini from congrArg Provision.hasGemini hs,
          (provision_of_startup h).2, hneeds]
        rfl
      exact not_turnedAway_of_fault hterms hfits (hr ▸ hopenai) (hr ▸ hgemini) hclient hfault
  refine ⟨⟨fun haway hreach => hreached hreach haway, fun hnot => ?_⟩, fun haway => ?_, hsent⟩
  · obtain ⟨c, hrun⟩ := perform_call_of_not_reachable hterms hfits (hr ▸ hnot)
    rw [TurnedAway, hrun]
    exact ⟨rfl, .inl rfl⟩
  · have hnot : ¬ Reachable r.model := fun hreach => hreached (hr ▸ hreach) haway
    obtain ⟨c, hrun⟩ := perform_call_of_not_reachable hterms hfits hnot
    rw [hrun, hr]

def plainPlace : Place := { root := "<repo>", files := { nodes := [([".git"], .directory)] } }

/-- An environment with a model of OpenAI that calls do not know. -/
def olderEnvironment : Environment := { model := some "o1", openaiKey := some "key" }

def olderServer : Started :=
  { repoPath := "<repo>", model := "o1", searchGrounding := false, geminiKey := none, openaiKey := some "key" }

/-- A server starts with the model and turns a short prompt away. -/
theorem older_model_is_turned_away :
    startup plainPlace olderEnvironment = .ok olderServer ∧
      TurnedAway { prompt := "hello", model := "o1" } { manager := some olderServer.manager } := by
  have hstarts : startup plainPlace olderEnvironment = .ok olderServer := eq_ok_of_toOption (by decide +kernel)
  obtain ⟨t, ht, hturned⟩ := started_model_is_turned_away_iff hstarts
  have hterms : olderServer.manager.terms? "o1" = some ⟨olderServer.manager.settings, .cl100k, 128000⟩ := rfl
  have hunknown : (isOpenai "o1" || isGemini "o1") = false := by decide
  cases hterms.symm.trans ht
  refine ⟨hstarts, (hturned _ _ rfl rfl (by decide +kernel)).1.2 ?_⟩
  rw [Reachable, ← Bool.or_eq_true, show olderServer.model = "o1" from rfl, hunknown]
  exact Bool.false_ne_true

end Server

end IssuePlanner
