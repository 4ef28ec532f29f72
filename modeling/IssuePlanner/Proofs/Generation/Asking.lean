import IssuePlanner.Proofs.Data.Entries
import IssuePlanner.Proofs.Server.Frame

/-! Asking a model for a text. To ask is to call the model and to put links to sources into the answer (`perform_ask`).
Nothing is taken out of an answer, so what is left is empty exactly if the model gave nothing (`holds_cited`). -/

namespace IssuePlanner

open IssuePlanner.Action

theorem exists_of_bind_eq_ok {ε α β : Type} {x : Except ε α} {f : α → Except ε β} {b : β} (h : (x >>= f) = .ok b) :
    ∃ a, x = .ok a ∧ f a = .ok b := by
  cases x with
  | error e => cases h
  | ok a => exact ⟨a, rfl, h⟩

namespace Citation

theorem insertAt_ne_nil {cs : List Char} (h : cs ≠ []) (i : Int) (new : List Char) : insertAt cs i new ≠ [] := by
  intro hnil
  simp only [insertAt, cutAt, List.append_eq_nil_iff] at hnil
  obtain ⟨⟨htake, -⟩, hdrop⟩ := hnil
  apply h
  rw [← List.take_append_drop _ cs, htake, hdrop, List.append_nil]

theorem insertLinks_ne_nil {addresses : List (Option String)} {cs out : List Char} {supports : List Support}
    (h : insertLinks addresses cs supports = .ok out) (hcs : cs ≠ []) : out ≠ [] := by
  induction supports generalizing cs with
  | nil =>
    cases h
    exact hcs
  | cons s rest ih =>
    obtain ⟨text, -, hrest⟩ := exists_of_bind_eq_ok h
    exact ih hrest (insertAt_ne_nil hcs _ _)

theorem citeFrom_eq_empty_iff {text out : String} {metadata : Datum} (h : citeFrom text metadata = .ok out) :
    out = "" ↔ text = "" := by
  unfold citeFrom at h
  split at h
  · split at h
    · cases h
      rfl
    · next htext =>
      have htext : text ≠ "" := by simpa using htext
      obtain ⟨supports, -, h⟩ := exists_of_bind_eq_ok h
      obtain ⟨sources, -, h⟩ := exists_of_bind_eq_ok h
      obtain ⟨read, -, h⟩ := exists_of_bind_eq_ok h
      obtain ⟨cs, hcs, h⟩ := exists_of_bind_eq_ok h
      cases h
      have hne : cs ≠ [] := insertLinks_ne_nil hcs (by simpa using htext)
      exact iff_of_false (by simpa using hne) htext
  · cases h
    rfl

end Citation

namespace Generation

/-- Calls the model of a request. Only for Gemini models it is known what an answer cites. -/
def answerOf (r : Model.Request) : Action Model.Answer :=
  if Model.isOpenai r.model then Model.callWithUsage r else Model.callWithCitations r

/-- Links do not turn an empty answer into a text, nor a text into an empty one. -/
theorem holds_cited {a : Model.Answer} {content : Datum} (h : cited a = .ok content) :
    content.holds = a.content.holds := by
  unfold cited at h
  split at h
  · next g text _ htext =>
    obtain ⟨out, hout, h⟩ := exists_of_bind_eq_ok h
    cases h
    rw [htext, Bool.eq_iff_iff]
    simp [Datum.holds, Citation.citeFrom_eq_empty_iff hout]
  · cases h
    rfl

theorem cited_of_grounding_none {a : Model.Answer} (h : a.grounding = none) : cited a = .ok a.content := by
  unfold cited
  rw [h]

/-- A call that only reports usage does not know what the answer cites. -/
theorem grounding_callWithUsage {r : Model.Request} {s s' : Session} {a : Model.Answer}
    (h : perform (Model.callWithUsage r) s = (.ok a, s')) : a.grounding = none := by
  obtain ⟨-, s₁, -, h⟩ := exists_of_perform_bind h
  obtain ⟨content, s₂, -, h⟩ := exists_of_perform_bind h
  obtain ⟨usage, s₃, -, h⟩ := exists_of_perform_bind h
  cases h
  rfl

/-! ### What is recorded of an answer -/

section Recording

open Metadata

variable {v : Validator} {data : List (String × Datum)} {f : Field} {d : Datum} {model status name : String}
  {a : Model.Answer}

theorem accepts_of_asIs? {x : f.kind.Value} (hget : Entries.get? f.name data = some d) (hnull : d.isNull = false)
    (h : f.kind.asIs? d = some x) : v.accepts data f = true := by
  unfold Validator.accepts Validator.given?
  simp [hget, Option.filter, hnull, v.read_of_asIs? h]

theorem accepts_optional_iff {kind : FieldKind} (hget : Entries.get? name data = some d) :
    v.accepts data (Metadata.optional name kind) = true ↔ (d.isNull = false → (v.read kind d).isSome = true) := by
  unfold Validator.accepts Validator.given?
  cases hnull : d.isNull <;> simp [Metadata.optional, hget, Option.filter, hnull]

theorem accepts_optional_of_none {kind : FieldKind} (hget : Entries.get? name data = none) :
    v.accepts data (Metadata.optional name kind) = true := by
  unfold Validator.accepts Validator.given?
  simp [Metadata.optional, hget]

theorem exists_ofData_iff :
    (∃ c, Completion.ofData v data = .ok c) ↔ ∀ f ∈ completionSchema, v.accepts data f = true := by
  have hnil : v.faults data completionSchema = [] ↔ ∀ f ∈ completionSchema, v.accepts data f = true := by
    simp [Validator.faults]
  rw [← hnil, Completion.ofData]
  cases v.faults data completionSchema <;> simp

def answerFields : List String :=
  ["model_name", "status", "generation_time_seconds", "input_tokens", "output_tokens", "total_tokens",
   "search_results_used", "timestamp"]

theorem get?_completionData_of_not_mem (h : name ∉ answerFields) :
    Entries.get? name (completionData model status a) = none := by
  refine Entries.get?_eq_none_iff.2 fun hmem => h ?_
  unfold completionData at hmem
  split at hmem
  · exact (List.Sublist.append_left (List.sublist_cons_self "search_results_used" ["timestamp"])
      (answerFields.take 6)).subset hmem
  · exact hmem

theorem accepts_searchResults :
    v.accepts (completionData model status a) (Metadata.optional "search_results_used" .count) = true := by
  cases hopenai : Model.isOpenai model with
  | true => exact accepts_optional_of_none (by simp [completionData, hopenai, Entries.get?])
  | false =>
    have hget : Entries.get? "search_results_used" (completionData model status a) = some (.bool (hasSources a)) := by
      simp [completionData, hopenai, Entries.get?]
    exact (accepts_optional_iff hget).2 fun _ => Option.isSome_iff_exists.2 ⟨_, v.read_flag (hasSources a)⟩

theorem accepts_timestamp : v.accepts (completionData model status a) (Metadata.optional "timestamp" .time) = true := by
  have hget : Entries.get? "timestamp" (completionData model status a) = some .null := by
    cases hopenai : Model.isOpenai model <;> simp [completionData, hopenai, Entries.get?]
  refine (accepts_optional_iff hget).2 fun hnull => ?_
  cases hnull

/-- Each count that came with an answer is null or a number to the checker. -/
def Acceptable (v : Validator) (a : Model.Answer) : Prop :=
  ∀ d ∈ [a.usage.prompt, a.usage.completion, a.usage.total], d.isNull = false → (v.read .count d).isSome = true

/-- An answer is recorded exactly if its counts are acceptable: all else that is recorded passes any checker. -/
theorem exists_completionOf_iff : (∃ c, completionOf v model status a = .ok c) ↔ Acceptable v a := by
  have hrecord : (∃ c, completionOf v model status a = .ok c) ↔
      ∃ c, Completion.ofData v (completionData model status a) = .ok c := by
    unfold completionOf
    cases Completion.ofData v (completionData model status a) <;> simp [Except.mapError]
  have hprompt : Entries.get? "input_tokens" (completionData model status a) = some a.usage.prompt := rfl
  have hcompletion : Entries.get? "output_tokens" (completionData model status a) = some a.usage.completion := rfl
  have htotal : Entries.get? "total_tokens" (completionData model status a) = some a.usage.total := rfl
  have hmissing {other : String} {kind : FieldKind} (h : other ∉ answerFields) :
      v.accepts (completionData model status a) (Metadata.optional other kind) = true :=
    accepts_optional_of_none (get?_completionData_of_not_mem h)
  rw [hrecord, exists_ofData_iff]
  simp only [Acceptable, completionSchema, completionFields, List.cons_append, List.nil_append, List.forall_mem_cons,
    List.not_mem_nil, false_implies, implies_true, and_true, accepts_optional_iff hprompt,
    accepts_optional_iff hcompletion, accepts_optional_iff htotal]
  constructor
  · rintro ⟨-, -, -, hcounts⟩
    exact ⟨hcounts.1, hcounts.2.1, hcounts.2.2.1⟩
  · rintro ⟨hin, hout, hsum⟩
    exact ⟨accepts_of_asIs? rfl rfl rfl, accepts_of_asIs? rfl rfl rfl, accepts_of_asIs? rfl rfl rfl, hin, hout, hsum,
      hmissing (by decide), hmissing (by decide), hmissing (by decide), accepts_searchResults, hmissing (by decide),
      hmissing (by decide), hmissing (by decide), hmissing (by decide), accepts_timestamp⟩

theorem inputTokens_of_completionOf {c : Completion} (h : completionOf v model status a = .ok c) :
    c.inputTokens = v.value? (completionData model status a) .count "input_tokens" := by
  unfold completionOf Completion.ofData at h
  split at h
  · cases h
    rfl
  · cases h

theorem exists_priced_of_unused (v : Validator) (model status : String) (ha : a.usage = {}) :
    ∃ c, completionOf v model status a = .ok c ∧ priced c = .ok c := by
  have hread : v.read .count (.int 0) = some 0 := v.read_of_asIs? rfl
  have hacceptable : Acceptable v a := by
    intro d hd _
    rw [ha] at hd
    simp only [List.mem_cons, List.not_mem_nil, or_self, or_false] at hd
    rw [hd, hread]
    rfl
  obtain ⟨c, hc⟩ := exists_completionOf_iff.2 hacceptable
  have htokens : c.inputTokens = some 0 := by
    rw [inputTokens_of_completionOf hc, Validator.value?, Validator.given?,
      show Entries.get? "input_tokens" (completionData model status a) = some a.usage.prompt from rfl, ha]
    exact hread
  refine ⟨c, hc, ?_⟩
  unfold priced
  rw [htokens]
  cases c.outputTokens <;> rfl

end Recording

/-! ### Asking -/

theorem steady_answerOf (r : Model.Request) : Steady (answerOf r) :=
  .ite (Model.mute_callWithUsage r).steady (Model.mute_callWithCitations r).steady

/-- What is made of an answer: its content with links to its sources, and what is recorded of it. -/
def recorded (v : Metadata.Validator) (model status : String) (a : Model.Answer) :
    Except Failure (Datum × Metadata.Completion) := do
  return (← cited a, ← completionOf v model status a)

theorem recorded_eq_ok_iff {v : Metadata.Validator} {model status : String} {a : Model.Answer} {content : Datum}
    {c : Metadata.Completion} : recorded v model status a = .ok (content, c) ↔
      cited a = .ok content ∧ completionOf v model status a = .ok c := by
  unfold recorded
  cases cited a with
  | error e => simp [bind, Except.bind]
  | ok d => cases completionOf v model status a <;> simp [bind, Except.bind, pure, Except.pure]

theorem perform_ask (status : String) (r : Model.Request) (s : Session) :
    perform (ask status r) s =
      andThen (fun a => ofExcept (recorded s.validator r.model status a)) (perform (answerOf r) s) := by
  have hvalidator : (perform (answerOf r) s).2.validator = s.validator :=
    congrArg Standing.validator (steady_answerOf r s)
  unfold ask answerOf at *
  split_ifs at hvalidator ⊢ with hopenai
  · rw [perform_bind]
    rcases hcall : perform (Model.callWithUsage r) s with ⟨e | a, s'⟩
    · rfl
    · rw [hcall] at hvalidator
      rw [andThen_ok, andThen_ok, recorded, cited_of_grounding_none (grounding_callWithUsage hcall), ← hvalidator,
        perform_bind, perform_get, andThen_ok, perform_bind, perform_ofExcept, perform_ofExcept]
      cases completionOf s'.validator r.model status a <;> rfl
  · rw [perform_bind]
    rcases hcall : perform (Model.callWithCitations r) s with ⟨e | a, s'⟩
    · rfl
    · rw [hcall] at hvalidator
      rw [andThen_ok, andThen_ok, recorded, ← hvalidator, perform_bind, perform_ofExcept, perform_ofExcept]
      cases cited a with
      | error e => rfl
      | ok content =>
        rw [andThen_ok, perform_bind, perform_get, andThen_ok, perform_bind, perform_ofExcept]
        cases completionOf s'.validator r.model status a <;> rfl

theorem exists_of_perform_ask {status : String} {r : Model.Request} {s s' : Session} {content : Datum}
    {c : Metadata.Completion} (h : perform (ask status r) s = (.ok (content, c), s')) :
    ∃ a, perform (answerOf r) s = (.ok a, s') ∧ cited a = .ok content ∧
      completionOf s.validator r.model status a = .ok c := by
  rw [perform_ask] at h
  rcases hanswer : perform (answerOf r) s with ⟨e | a, s₁⟩
  · rw [hanswer] at h
    cases h
  · rw [hanswer, andThen_ok, perform_ofExcept] at h
    obtain ⟨hrecorded, rfl⟩ := Prod.ext_iff.1 h
    exact ⟨a, rfl, recorded_eq_ok_iff.1 hrecorded⟩

end Generation

end IssuePlanner
