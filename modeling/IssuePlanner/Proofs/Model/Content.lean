import IssuePlanner.Proofs.Data.Entries
import IssuePlanner.Proofs.Model.Requests
import IssuePlanner.Proofs.Text.Pick

/-! What a request says. Both forms of request carry the prompt: as the input, or behind the system message. A
chunk stands behind a header that tells its number. Reading the prompt of a request and taking off the header
gives back what was sent (`sentPrompt?_sent`, `contents?_chunkRequests`). -/

namespace IssuePlanner

namespace Model

/-- What stands before the prompt in a Gemini request. -/
def Request.lead (r : Request) : String := if r.systemText == "" then "" else r.systemText ++ "\n\n"

theorem Request.geminiText_eq (r : Request) : r.geminiText = r.lead ++ r.prompt := by
  unfold geminiText lead
  split
  · exact String.empty_append.symm
  · rfl

/-- The prompt in a request, without the system message. -/
def sentPrompt? (r : Request) (q : Sent) : Option (List Char) :=
  match q.1 with
  | .openai => ((Entries.get? "input" q.2).bind Tokens.text?).map String.toList
  | .gemini => ((Entries.get? "contents" q.2).bind Tokens.text?).bind fun text =>
      Text.after? r.lead.toList text.toList

theorem Request.get?_input_openaiParams (r : Request) (h : Entries.get? "input" r.extras = none) :
    Entries.get? "input" r.openaiParams = some (.text r.prompt) := by
  have hlast : Entries.get? "input" ((r.generation.map fun g => [("generation_config", Datum.dict g)]).getD []
      ++ (if r.systemText == "" then [] else [("instructions", Datum.text r.systemText)])
      ++ (if isDeepResearch r.model then [("tools", researchTools)] else [])
      ++ if r.wantsData then [("response_format", Datum.dict [("type", .text "json_object")])] else []) = none := by
    refine Entries.get?_append_of_none (Entries.get?_append_of_none (Entries.get?_append_of_none ?_ ?_) ?_) ?_
    · cases r.generation <;> rfl
    all_goals split <;> rfl
  unfold openaiParams
  rw [Entries.get?_putAll hlast, Entries.get?_putAll h]
  rfl

theorem sentPrompt?_sent (r : Request) (h : Entries.get? "input" r.extras = none) (prompt : String) :
    sentPrompt? r { r with prompt }.sent = some prompt.toList := by
  unfold Request.sent
  split
  · simp [sentPrompt?, Request.get?_input_openaiParams { r with prompt } h, Tokens.text?]
  · have hlead : ({ r with prompt } : Request).lead = r.lead := rfl
    simp only [sentPrompt?, Request.geminiParams, Request.geminiText_eq, hlead]
    simp [Entries.get?, Tokens.text?, Text.after?_append]

theorem chunkPrompt_eq (i n : Nat) (chunk : String) : chunkPrompt i n chunk = chunkPrompt i n "" ++ chunk := by
  unfold chunkPrompt
  split_ifs <;> simp [String.append_assoc]

/-- What requests say, one after the other, without the system message and the headers of the chunks. The first
one has the number `i` out of `n`. -/
def contents? (r : Request) (n : Nat) : (i : Nat) → List Sent → Option (List Char)
  | _, [] => some []
  | i, q :: qs => do
    let prompt ← sentPrompt? r q
    let content ← Text.after? (chunkPrompt i n "").toList prompt
    return content ++ (← contents? r n (i + 1) qs)

theorem contents?_chunkRequests (r : Request) (h : Entries.get? "input" r.extras = none) (n : Nat)
    (chunks : List String) (i : Nat) :
    contents? r n i (chunkRequests r n i chunks) = some (chunks.flatMap String.toList) := by
  induction chunks generalizing i with
  | nil => rfl
  | cons chunk rest ih =>
    have hhead : Text.after? (chunkPrompt i n "").toList (chunkPrompt i n chunk).toList = some chunk.toList := by
      rw [chunkPrompt_eq i n chunk, String.toList_append]
      exact Text.after?_append _ _
    simp only [chunkRequests] at ih
    simp only [contents?, chunkRequests, chunkPrompts, List.map_cons, sentPrompt?_sent r h, ih,
      Option.bind_eq_bind, Option.bind_some, hhead, List.flatMap_cons]
    rfl

theorem length_chunkPrompts (n : Nat) (chunks : List String) (i : Nat) :
    (chunkPrompts n i chunks).length = chunks.length := by
  induction chunks generalizing i with
  | nil => rfl
  | cons chunk rest ih => rw [chunkPrompts, List.length_cons, ih, List.length_cons]

theorem length_chunkRequests (r : Request) (n : Nat) (chunks : List String) (i : Nat) :
    (chunkRequests r n i chunks).length = chunks.length := by
  rw [chunkRequests, List.length_map, length_chunkPrompts]

theorem mem_chunkPrompts {n i : Nat} {chunks : List String} {prompt : String}
    (h : prompt ∈ chunkPrompts n i chunks) :
    ∃ k < chunks.length, ∃ chunk ∈ chunks, prompt = chunkPrompt (i + k) n "" ++ chunk := by
  induction chunks generalizing i with
  | nil => cases h
  | cons chunk rest ih =>
    rcases List.mem_cons.1 h with rfl | h
    · exact ⟨0, by simp, chunk, by simp, chunkPrompt_eq i n chunk⟩
    · obtain ⟨k, hk, c, hc, rfl⟩ := ih h
      refine ⟨k + 1, by simpa using hk, c, by simp [hc], ?_⟩
      rw [Nat.add_assoc, Nat.add_comm 1 k]

end Model

end IssuePlanner
