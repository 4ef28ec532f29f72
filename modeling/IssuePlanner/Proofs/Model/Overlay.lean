import IssuePlanner.Proofs.Data.Entries
import IssuePlanner.Proofs.Model.Exchange

/-! Settings of a generation laid over those of a Gemini request. The generation decides every setting but its tools, also
where it says nothing. So a setting that the request makes and the generation does not give is lost, and tools that are
none leave those of the request in place (`settingIn_geminiConfig`, `settingIn_tools`). -/

namespace IssuePlanner.Model

open IssuePlanner.Action

variable {r : Request} {s : Session} {g : List (String × Datum)} {name : String}

/-- The value of a setting; null if it is not given. -/
def settingIn (name : String) (es : List (String × Datum)) : Datum := .ofOption (Entries.get? name es)

def generationSettings : List String := "tools" :: Request.generationFields

namespace Request

/-- The value of a setting if a generation only adds: what it gives, and what the request has without it otherwise. -/
def overlaid (r : Request) (name : String) : Datum :=
  match r.generation with
  | some g => if (settingIn name g).isNull then settingIn name r.plainConfig else settingIn name g
  | none => settingIn name r.plainConfig

/-- The generation of a request drops a setting. Of tools it drops those that are none, for the sake of others; anything
else it drops by not giving it. -/
def Drops (r : Request) (name : String) : Prop :=
  ∃ g, r.generation = some g ∧
    if name = "tools" then (settingIn name g).isNull = false ∧ (settingIn name g).holds = false ∧
      settingIn name r.plainConfig ≠ settingIn name g
    else (settingIn name g).isNull = true ∧ settingIn name r.plainConfig ≠ .null

end Request

/-! ### The merged configuration -/

theorem isNull_iff {d : Datum} : d.isNull = true ↔ d = .null := by
  cases d <;> simp [Datum.isNull]

theorem holds_of_isNull {d : Datum} (h : d.isNull = true) : d.holds = false := by
  rw [isNull_iff.1 h]
  rfl

theorem get?_map_key {α : Type} (f : String → α) (names : List String) :
    Entries.get? name (names.map fun n => (n, f n)) = if name ∈ names then some (f name) else none := by
  induction names with
  | nil => rfl
  | cons n names ih =>
    rw [List.map_cons, Entries.get?_cons, ih]
    by_cases h : n = name
    · simp [h]
    · simp [h, Ne.symm h]

theorem keys_mergedGeneration_nodup (g : List (String × Datum)) : (Entries.keys (Request.mergedGeneration g)).Nodup := by
  have hnames : ("tools" :: Request.generationFields).Nodup := by decide
  unfold Request.mergedGeneration Entries.keys
  dsimp only
  rw [List.map_append, List.map_map, Function.comp_def]
  split
  · simpa using hnames
  · simpa using hnames.of_cons

theorem get?_geminiConfig (h : r.generation = some g) (name : String) :
    Entries.get? name r.geminiConfig =
      (Entries.get? name (Request.mergedGeneration g)).or (Entries.get? name r.plainConfig) := by
  unfold Request.geminiConfig
  rw [h]
  exact Entries.get?_putAll_of_nodup (keys_mergedGeneration_nodup g) name _

theorem settingIn_geminiConfig (h : r.generation = some g) (hname : name ∈ Request.generationFields) :
    settingIn name r.geminiConfig = settingIn name g := by
  have htools : "tools" ≠ name := by
    rintro rfl
    revert hname
    decide
  have hmerged : Entries.get? name (Request.mergedGeneration g) = some (settingIn name g) := by
    unfold Request.mergedGeneration
    dsimp only
    split
    · rw [List.singleton_append, Entries.get?_cons, if_neg htools, get?_map_key, if_pos hname]
      rfl
    · rw [List.nil_append, get?_map_key, if_pos hname]
      rfl
  rw [settingIn, get?_geminiConfig h, hmerged]
  rfl

theorem settingIn_tools (h : r.generation = some g) :
    settingIn "tools" r.geminiConfig =
      if (settingIn "tools" g).holds then settingIn "tools" g else settingIn "tools" r.plainConfig := by
  have hmerged : Entries.get? "tools" (Request.mergedGeneration g) =
      if (settingIn "tools" g).holds then some (settingIn "tools" g) else none := by
    unfold Request.mergedGeneration
    dsimp only
    split
    · next hholds => exact (if_pos hholds).symm
    · next hholds =>
      rw [List.nil_append, get?_map_key, if_neg (by decide)]
      exact (if_neg hholds).symm
  rw [settingIn, get?_geminiConfig h, hmerged]
  split <;> rfl

theorem settingIn_eq_overlaid_iff (hname : name ∈ generationSettings) :
    settingIn name r.geminiConfig = r.overlaid name ↔ ¬ r.Drops name := by
  cases hg : r.generation with
  | none =>
    refine iff_of_true ?_ ?_
    · rw [Request.overlaid, Request.geminiConfig, hg]
    · rintro ⟨g, hsome, -⟩
      rw [hg] at hsome
      cases hsome
  | some g =>
    have hdrops : r.Drops name ↔
        if name = "tools" then (settingIn name g).isNull = false ∧ (settingIn name g).holds = false ∧
          settingIn name r.plainConfig ≠ settingIn name g
        else (settingIn name g).isNull = true ∧ settingIn name r.plainConfig ≠ .null := by
      simp [Request.Drops, hg]
    have hoverlaid : r.overlaid name =
        if (settingIn name g).isNull then settingIn name r.plainConfig else settingIn name g := by
      rw [Request.overlaid, hg]
    rw [hdrops, hoverlaid]
    rcases List.mem_cons.1 hname with rfl | hfield
    · rw [settingIn_tools hg, if_pos rfl]
      cases hholds : (settingIn "tools" g).holds with
      | true =>
        have hnull : (settingIn "tools" g).isNull = false := by
          by_contra h
          rw [Bool.not_eq_false] at h
          rw [holds_of_isNull h] at hholds
          cases hholds
        simp [hnull]
      | false => cases (settingIn "tools" g).isNull <;> simp
    · have htools : name ≠ "tools" := by
        rintro rfl
        revert hfield
        decide
      rw [settingIn_geminiConfig hg hfield, if_neg htools]
      cases hnull : (settingIn name g).isNull with
      | true =>
        rw [if_pos rfl, isNull_iff.1 hnull]
        exact ⟨fun h hdropped => hdropped.2 h.symm, fun h => (not_not.1 fun hne => h ⟨rfl, hne⟩).symm⟩
      | false => simp

/-! ### What is sent -/

/-- Every request that a Gemini call sends carries a configuration, and a setting stands in it as if the generation only
added to the request exactly if the generation does not drop it. -/
theorem gemini_config_overlays_iff (hopenai : isOpenai r.model = false) (hs : Serves s r.model) :
    ∃ evs, (perform (callOnce r) s).2.trace = evs.reverse ++ s.trace ∧ requests evs ≠ [] ∧
      ∀ q ∈ requests evs, ∃ config, q.1 = .gemini ∧ Entries.get? "config" q.2 = some (.dict config) ∧
        ∀ name ∈ generationSettings, settingIn name config = r.overlaid name ↔ ¬ r.Drops name := by
  obtain ⟨k, evs, s', hrun, htrace, hexchange, -⟩ := perform_callOnce hs
  have hsent : r.sent = (.gemini, r.geminiParams) := if_neg (by simp [hopenai])
  have hrequests := hexchange.requests_eq
  refine ⟨evs, by rw [hrun, htrace], ?_, fun q hq => ?_⟩
  · rw [hrequests, Ne, List.replicate_eq_nil_iff]
    exact Nat.ne_of_gt hexchange.tried.pos
  · rw [hrequests, hsent] at hq
    rw [List.eq_of_mem_replicate hq]
    exact ⟨r.geminiConfig, rfl, rfl, fun name => settingIn_eq_overlaid_iff⟩

/-- A request that lets a model search, at a temperature of its own. -/
def groundedRequest : Request :=
  { prompt := "Hello", model := "gemini-2.5-pro", temperature := 0.5
    generation := some [("tools", .list [.dict [("google_search", .dict [])]])] }

/-- The temperature of a request that lets a model search is not sent. -/
theorem grounded_request_loses_temperature :
    groundedRequest.overlaid "temperature" = .float 0.5 ∧
      ∃ evs, (perform (callOnce groundedRequest) {}).2.trace = evs.reverse ∧ requests evs ≠ [] ∧
        ∀ q ∈ requests evs, ∃ config, Entries.get? "config" q.2 = some (.dict config) ∧
          settingIn "temperature" config ≠ .float 0.5 := by
  have hintended : groundedRequest.overlaid "temperature" = .float 0.5 := rfl
  have hdrops : groundedRequest.Drops "temperature" := by
    refine ⟨_, rfl, ?_⟩
    rw [if_neg (by decide)]
    exact ⟨rfl, nofun⟩
  obtain ⟨evs, htrace, hsome, hconfig⟩ :=
    gemini_config_overlays_iff (r := groundedRequest) (s := {}) (by decide +kernel) (by decide +kernel)
  refine ⟨hintended, evs, by simpa using htrace, hsome, fun q hq => ?_⟩
  obtain ⟨config, -, hentry, hiff⟩ := hconfig q hq
  refine ⟨config, hentry, fun hkept => ?_⟩
  exact (hiff "temperature" (by decide)).1 (hkept.trans hintended.symm) hdrops

end IssuePlanner.Model
