import IssuePlanner.Proofs.Model.Content
import IssuePlanner.Proofs.Model.Terms

/-! Whether the requests of a prompt that is sent in chunks stay within the limit of the model. They do exactly if
the prompts of the chunks, with their headers, do (`callInChunks_within_iff`). Every request does when chunks have
a target that is not negative, repeat nothing and have headers of at most 48 tokens; none does when the system
message and the margin alone exceed the limit, and such requests are sent all the same. -/

namespace IssuePlanner.Model

open IssuePlanner.Action Tokens

variable {s : Session} {r : Request} {t : Terms}

/-- The prompt of a request, the system message and the margin stay within the limit. -/
def Terms.Within (t : Terms) (r : Request) (q : Sent) : Prop :=
  ∃ prompt, sentPrompt? r q = some prompt ∧
    t.encoding.count prompt + t.encoding.count r.systemText.toList + t.settings.safetyMargin ≤ t.limit

theorem within_sent_iff (hinput : Entries.get? "input" r.extras = none) (prompt : String) :
    t.Within r { r with prompt }.sent ↔ (t.encoding.count prompt.toList : Int) ≤ t.room r := by
  unfold Terms.Within Terms.room
  rw [sentPrompt?_sent r hinput]
  constructor
  · rintro ⟨p, hp, hle⟩
    cases hp
    omega
  · intro hle
    exact ⟨_, rfl, by omega⟩

/-- The two tokens by which a chunk may exceed the target and a short header take up what the target leaves of
the room. -/
theorem count_chunkPrompts_le (htarget : 0 ≤ (t.budget r).target)
    (hoverlap : t.settings.strategy = .paragraphs → ¬ 0 < t.settings.overlapRatio)
    (hheader : ∀ i < (t.chunks r).length,
      t.encoding.count (chunkPrompt i (t.chunks r).length "").toList ≤ 48) :
    ∀ prompt ∈ chunkPrompts (t.chunks r).length 0 (t.chunks r),
      (t.encoding.count prompt.toList : Int) ≤ t.room r := by
  intro prompt hprompt
  obtain ⟨k, hk, chunk, hchunk, rfl⟩ := mem_chunkPrompts hprompt
  have hcut : (t.encoding.count chunk.toList : Int) ≤ (t.budget r).target + 2 := by
    unfold Terms.chunks at hchunk
    split at hchunk
    · cases hchunk
    · obtain ⟨piece, hpiece, rfl⟩ := List.mem_map.1 hchunk
      rw [String.toList_ofList]
      exact Chunk.count_cut_le htarget hoverlap _ piece hpiece
  have hhead := hheader (0 + k) (by rwa [Nat.zero_add])
  have hsum := t.encoding.count_append_le (chunkPrompt (0 + k) (t.chunks r).length "").toList chunk.toList
  have hroom : (t.budget r).target = t.room r - 50 := rfl
  rw [String.toList_append]
  omega

theorem within_take_iff (hinput : Entries.get? "input" r.extras = none) (n k : Nat) (chunks : List String) :
    (∀ q ∈ (chunkRequests r n 0 chunks).take k, t.Within r q) ↔
      ∀ prompt ∈ (chunkPrompts n 0 chunks).take k, (t.encoding.count prompt.toList : Int) ≤ t.room r := by
  rw [chunkRequests, ← List.map_take, List.forall_mem_map]
  exact forall₂_congr fun prompt _ => within_sent_iff hinput prompt

/-- A prompt that is sent in chunks is sent in requests for its first chunks, for all of them if nothing fails. The
requests stay within the limit exactly if the prompts of these chunks do, headers included. -/
theorem callInChunks_within_iff (hinput : Entries.get? "input" r.extras = none) :
    ∃ evs, (perform (callInChunks r) s).2.trace = evs.reverse ++ s.trace ∧
      ((managerOf s).terms? r.model = none → requests evs = []) ∧
      ∀ t, (managerOf s).terms? r.model = some t →
        (∃ k, (∀ d, (perform (callInChunks r) s).1 = .ok d → k = (t.chunks r).length) ∧
          (∀ q, q ∈ requests evs ↔ q ∈ (chunkRequests r (t.chunks r).length 0 (t.chunks r)).take k) ∧
          ((∀ q ∈ requests evs, t.Within r q) ↔
            ∀ prompt ∈ (chunkPrompts (t.chunks r).length 0 (t.chunks r)).take k,
              (t.encoding.count prompt.toList : Int) ≤ t.room r)) ∧
        (0 ≤ (t.budget r).target →
          (t.settings.strategy = .paragraphs → ¬ 0 < t.settings.overlapRatio) →
          (∀ i < (t.chunks r).length,
            t.encoding.count (chunkPrompt i (t.chunks r).length "").toList ≤ 48) →
          ∀ q ∈ requests evs, t.Within r q) ∧
        (t.room r < 0 → ∀ q ∈ requests evs, ¬ t.Within r q) := by
  cases ht : (managerOf s).terms? r.model with
  | none =>
    obtain ⟨evs, htrace, hnone⟩ := trace_callInChunks_of_none ht
    refine ⟨evs, htrace, fun _ => hnone, ?_⟩
    intro t h
    cases h
  | some t =>
    obtain ⟨f, hf, htrace⟩ | ⟨text, blocks, htrace, hblocks⟩ := trace_callInChunks ht
    · refine ⟨[], htrace, fun h => (by cases h), ?_⟩
      rintro _ ⟨⟩
      refine ⟨⟨0, fun d hd => ?_, by simp [requests], by simp [requests]⟩, by simp [requests], by simp [requests]⟩
      rw [hf] at hd
      cases hd
    obtain ⟨k, -, hsent, hall⟩ := hblocks.mem_requests_iff
    rw [length_chunkRequests] at hall
    have hiff : (∀ q ∈ requests blocks, t.Within r q) ↔
        ∀ prompt ∈ (chunkPrompts (t.chunks r).length 0 (t.chunks r)).take k,
          (t.encoding.count prompt.toList : Int) ≤ t.room r := by
      rw [← within_take_iff hinput]
      exact forall_congr' fun q => by rw [hsent]
    refine ⟨_, htrace, fun h => (by cases h), ?_⟩
    rintro _ ⟨⟩
    refine ⟨⟨k, hall, hsent, hiff⟩, fun htarget hoverlap hheader => hiff.2 fun prompt hprompt => ?_, ?_⟩
    · exact count_chunkPrompts_le htarget hoverlap hheader prompt (List.mem_of_mem_take hprompt)
    · rintro hroom q - ⟨prompt, -, hle⟩
      unfold Terms.room at hroom
      omega

/-- A session whose margin alone exceeds the limit of the model. -/
def crampedSession : Session :=
  { manager := some { counter := { config := { limits := [("gpt-4o", 100)] } } }
    replies := [.answer (.record [("output_text", .text "ok")])] }

def crampedRequest : Request := { prompt := "hello", model := "gpt-4o" }

/-- A short prompt is sent though no request could stay within the limit. -/
theorem callInChunks_cramped_exceeds :
    ∃ evs t q, (managerOf crampedSession).terms? crampedRequest.model = some t ∧
      (perform (callInChunks crampedRequest) crampedSession).2.trace = evs.reverse ∧
      q ∈ requests evs ∧ ¬ t.Within crampedRequest q := by
  obtain ⟨evs, htrace, -, hterms⟩ :=
    callInChunks_within_iff (s := crampedSession) (r := crampedRequest) rfl
  obtain ⟨-, -, hcramped⟩ := hterms ⟨{}, .o200k, 100⟩ rfl
  have hevs : (perform (callInChunks crampedRequest) crampedSession).2.trace = evs.reverse :=
    htrace.trans (List.append_nil _)
  have hsent : (requests (perform (callInChunks crampedRequest) crampedSession).2.trace.reverse).length = 1 := by
    decide +kernel
  rw [hevs, List.reverse_reverse] at hsent
  obtain ⟨q, hq⟩ := List.exists_mem_of_length_pos (by rw [hsent]; exact Nat.one_pos)
  exact ⟨evs, _, q, rfl, hevs, hq, hcramped (by decide +kernel) q hq⟩

end IssuePlanner.Model
