import IssuePlanner.Proofs.Model.Content
import IssuePlanner.Proofs.Model.Terms

/-! Whether a prompt arrives. When a call succeeds, its requests say everything solid in the prompt, in order,
exactly if the prompt was sent whole or the cutting did not stall (`call_delivers_iff`). A call whose chunks
have a target of zero tokens succeeds without a request. -/

namespace IssuePlanner.Model

open IssuePlanner.Action Text

variable {s s' : Session} {r : Request} {t : Terms} {d : Datum} {evs : List Event}

/-- The events deliver the prompt of a request: something was sent, and all that was sent, each request
counted once, says what is solid in the prompt. -/
def Delivers (r : Request) (evs : List Event) : Prop :=
  settled evs ≠ [] ∧
    (contents? r (settled evs).length 0 (settled evs)).map solid = some (solid r.prompt.toList)

/-- Cutting the prompt of a request stops before its end. -/
def Terms.Stalls (t : Terms) (r : Request) : Prop :=
  Chunk.CutStalls t.settings.strategy t.encoding (t.budget r).target r.prompt.toList

theorem Block.settled_eq {q : Sent} (h : Block q evs (.ok d : Except Failure Datum)) : settled evs = [q] := by
  rw [settled, h.foldr_settleStep []]

theorem delivers_of_whole (hinput : Entries.get? "input" r.extras = none) (h : settled evs = [r.sent]) :
    Delivers r evs := by
  have hprompt : sentPrompt? r r.sent = some r.prompt.toList := sentPrompt?_sent r hinput r.prompt
  have hhead : (chunkPrompt 0 1 "").toList = [] := rfl
  refine ⟨by rw [h]; exact List.cons_ne_nil _ _, ?_⟩
  simp [h, contents?, hprompt, hhead, after?]

/-- Chunks deliver a prompt exactly if they keep what is solid in it. -/
theorem delivers_chunks_iff (hinput : Entries.get? "input" r.extras = none)
    (hprompt : solid r.prompt.toList ≠ []) (chunks : List (List Char))
    (h : settled evs = chunkRequests r chunks.length 0 (chunks.map String.ofList)) :
    Delivers r evs ↔ solid chunks.flatten = solid r.prompt.toList := by
  have hlength : (settled evs).length = chunks.length := by
    rw [h, length_chunkRequests, List.length_map]
  have hcontents : contents? r (settled evs).length 0 (settled evs) = some chunks.flatten := by
    rw [hlength, h, contents?_chunkRequests r hinput]
    simp [List.flatMap_def]
  rw [Delivers, hcontents, Option.map_some, Option.some_inj, and_iff_right_iff_imp]
  intro hsolid hnil
  have hempty : chunks = [] := List.length_eq_zero_iff.1 (by rw [← hlength, hnil, List.length_nil])
  rw [hempty] at hsolid
  exact hprompt hsolid.symm

theorem settled_of_call (hprompt : solid r.prompt.toList ≠ []) (hrun : perform (call r) s = (.ok d, s')) :
    ∃ t evs, (managerOf s).terms? r.model = some t ∧ s'.trace = evs.reverse ++ s.trace ∧
      settled evs = if t.fits r then [r.sent]
        else chunkRequests r (t.pieces r).length 0 ((t.pieces r).map String.ofList) := by
  cases ht : (managerOf s).terms? r.model with
  | none =>
    have hne : r.prompt.toList ≠ [] := fun h => hprompt (by rw [h, solid_nil])
    obtain ⟨f, hf⟩ := perform_call_of_none ht hne
    rw [hf] at hrun
    cases hrun
  | some t =>
    obtain ⟨s₁, htrace, hterms, hcall⟩ := perform_call ht
    rw [hcall] at hrun
    cases hfits : t.fits r with
    | true =>
      rw [hfits, if_pos rfl] at hrun
      obtain ⟨evs, hevs, hblock⟩ := emits_callOnce r s₁
      rw [hrun] at hevs hblock
      exact ⟨t, evs, rfl, htrace ▸ hevs, by rw [hfits, if_pos rfl, hblock.settled_eq]⟩
    | false =>
      rw [hfits, if_neg Bool.false_ne_true] at hrun
      obtain ⟨f, hf, -⟩ | ⟨text, blocks, hevs, hblocks⟩ := trace_callInChunks hterms
      · rw [hrun] at hf
        cases hf
      rw [hrun] at hevs hblocks
      have hchunks : t.chunks r = (t.pieces r).map String.ofList :=
        if_neg fun h => hprompt ((isBlankText_iff r.prompt).1 h)
      rw [hchunks, List.length_map] at hblocks
      refine ⟨t, _, rfl, htrace ▸ hevs, ?_⟩
      rw [hfits, if_neg Bool.false_ne_true]
      exact hblocks.settled_eq

/-- Without overlap, a call that succeeds has delivered its prompt exactly if the prompt was sent whole or the
cutting did not stall. With a target of zero tokens nothing is sent. Under a negative target, and under one of two
tokens or more, a prompt is delivered unless it starts with a blank and is cut between sentences. -/
theorem call_delivers_iff (hprompt : solid r.prompt.toList ≠ [])
    (hoverlap : ¬ 0 < (managerOf s).settings.overlapRatio) (hinput : Entries.get? "input" r.extras = none)
    (hrun : perform (call r) s = (.ok d, s')) :
    ∃ t evs, (managerOf s).terms? r.model = some t ∧ s'.trace = evs.reverse ++ s.trace ∧
      (Delivers r evs ↔ t.fits r = true ∨ ¬ t.Stalls r) ∧
      (t.fits r = false → (t.budget r).target = 0 → settled evs = []) ∧
      ((t.budget r).target < 0 ∨ 2 ≤ (t.budget r).target →
        (t.settings.strategy = .sentences → ∀ c cs, r.prompt.toList = c :: cs → isBlank c = false) →
        Delivers r evs) := by
  obtain ⟨t, evs, ht, htrace, hsettled⟩ := settled_of_call hprompt hrun
  obtain ⟨-, hset, -⟩ := encodingOf?_of_terms ht
  have hiff : Delivers r evs ↔ t.fits r = true ∨ ¬ t.Stalls r := by
    cases hfits : t.fits r with
    | true =>
      rw [hfits, if_pos rfl] at hsettled
      exact ⟨fun _ => .inl rfl, fun _ => delivers_of_whole hinput hsettled⟩
    | false =>
      rw [hfits, if_neg Bool.false_ne_true] at hsettled
      rw [delivers_chunks_iff hinput hprompt _ hsettled]
      have hcut := Chunk.solid_cut_iff (e := t.encoding) (b := t.budget r) (by rwa [hset] at hoverlap)
        t.settings.strategy r.prompt.toList
      exact hcut.trans ⟨.inr, fun h => h.resolve_left Bool.false_ne_true⟩
  refine ⟨t, evs, ht, htrace, hiff, fun hfits hzero => ?_, fun htarget hstart => ?_⟩
  · rw [hsettled, hfits, if_neg Bool.false_ne_true, Terms.pieces, Chunk.cut_zero hzero]
    rfl
  · rcases htarget with hneg | htwo
    · exact hiff.2 (.inr (Chunk.not_cutStalls_of_neg hneg _ _))
    · exact hiff.2 (.inr (Chunk.not_cutStalls_of_two_le htwo hstart))

/-- A session whose manager leaves no token to a chunk. -/
def starvedSession : Session :=
  { manager := some
      { settings := { safetyMargin := 50, overlapRatio := 0 }
        counter := { config := { limits := [("gpt-4o", 100)] } } } }

def greeting : Request := { prompt := "hello", model := "gpt-4o" }

/-- Nothing arrives of a short prompt, and the call succeeds. -/
theorem call_starved_succeeds :
    ∃ d s' evs, perform (call greeting) starvedSession = (.ok d, s') ∧ s'.trace = evs.reverse ∧
      settled evs = [] ∧ ¬ Delivers greeting evs := by
  have hok : (perform (call greeting) starvedSession).1.isOk = true := by decide +kernel
  rcases hrun : perform (call greeting) starvedSession with ⟨f | d, s'⟩
  · rw [hrun] at hok
    cases hok
  · obtain ⟨t, evs, ht, htrace, -, hzero, -⟩ :=
      call_delivers_iff (by decide) (by decide) (by decide) hrun
    cases ht
    have hnone : settled evs = [] := hzero (by decide +kernel) (by decide +kernel)
    refine ⟨d, s', evs, rfl, ?_, hnone, fun h => h.1 hnone⟩
    rw [htrace]
    exact List.append_nil _

end IssuePlanner.Model
