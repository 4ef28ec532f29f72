import IssuePlanner.Proofs.Chunk.Coincidence
import IssuePlanner.Proofs.Chunk.Tearing
import IssuePlanner.Proofs.Server.Dispatch

/-! How a server cuts long prompts. Its settings ask for chunks by `paragraph`, and only `paragraphs` is known as a way
to cut between lines; so prompts are cut between sentences. Lines stay whole exactly if no cut tears one, and chunks
between lines would be the same only where there is a single chunk (`server_cuts_between_sentences`). -/

namespace IssuePlanner

namespace Model

open IssuePlanner.Action Tokens

theorem perform_counting_fst {α : Type} (f : Counter → Except Failure (α × Counter)) (s : Session) :
    (perform (counting f) s).1 = (f (managerOf s).counter).map (·.1) := by
  cases hf : f (managerOf s).counter with
  | error e => rw [perform_counting_error f hf, Except.map]
  | ok p => rw [perform_counting_ok f hf, Except.map]

end Model

namespace Chunk

open Tokens Text

variable {b : Budget} {c : Counter} {model : String} {e : Encoding}

theorem split_sentences_eq (he : c.encodingOf? model = some e) (hask : b.ask true = .ok ()) (text : String) :
    (split .sentences b c model text).map (·.1) = .ok ((sentences e b.target text.toList).map String.ofList) := by
  obtain ⟨c', -, hsplit⟩ := split_of_encoding he .sentences b text
  rw [hsplit]
  split_ifs with hblank
  · rw [sentences_of_blank ((isBlankText_iff text).1 hblank)]
    rfl
  · rw [Strategy.asks_sentences, hask]
    rfl

end Chunk

namespace Server

open IssuePlanner.Action Model Chunk Text

variable {s : Session}

def chunkBudget (maxTokens : Int) : Budget := { maxTokens, margin := 50, overlapRatio := 0.1 }

theorem ask_chunkBudget {maxTokens : Int} (h : maxTokens.natAbs < Number.rangeEnd) :
    (chunkBudget maxTokens).ask true = .ok () := by
  have hrange : (chunkBudget maxTokens).InRange ↔ _ := Budget.inRange_iff rfl view_defaultRatio
  exact Budget.ask_of_inRange (hasFiniteRatio_of_default rfl)
    (hrange.2 ((Number.inRange_iff_of_le_one (by norm_num)).2 h))

/-- A server's settings name no way of cutting that is known, so the other one is taken. -/
theorem chunksOf_fst (st : Started) (hs : (managerOf s).provision = st.manager.provision) (prompt model : String)
    (maxTokens : Int) : (perform (chunksOf prompt model maxTokens) s).1 =
      (split .sentences (chunkBudget maxTokens) (managerOf s).counter model prompt).map (·.1) := by
  have hsettings : (managerOf s).settings = st.manager.settings := congrArg Provision.settings hs
  simp only [chunksOf, perform_bind, perform_theManager, andThen_ok, perform_counting_fst, hsettings]
  rfl

/-- A server cuts every prompt between sentences, for every model and limit. In the range of floats the lines of the
chunks are those of the prompt exactly if no cut falls inside a line and nothing is lost. If all lines fit, cutting
between lines gives the same chunks exactly if there are none or a single one. -/
theorem server_cuts_between_sentences (st : Started) (hs : (managerOf s).provision = st.manager.provision)
    (prompt model : String) (maxTokens : Int) :
    (perform (chunksOf prompt model maxTokens) s).1 =
        (split .sentences (chunkBudget maxTokens) (managerOf s).counter model prompt).map (·.1) ∧
      ∃ e, (managerOf s).counter.encodingOf? model = some e ∧ (maxTokens.natAbs < Number.rangeEnd →
        ∃ chunks, (perform (chunksOf prompt model maxTokens) s).1 = .ok chunks ∧
          (chunks.flatMap (fun chunk => solidLines chunk.toList) = solidLines prompt.toList ↔
            ¬ Tears e (maxTokens - 50) prompt.toList ∧ ¬ Stalls e (maxTokens - 50) prompt.toList) ∧
          ((∀ l ∈ solidLines prompt.toList, (e.count l : Int) ≤ maxTokens - 50) →
            ((split .paragraphs (chunkBudget maxTokens) (managerOf s).counter model prompt).map (·.1) = .ok chunks ↔
              isBlankText prompt ∨ OneChunk e (maxTokens - 50) prompt.toList))) := by
  obtain ⟨t, ht⟩ := exists_terms st model
  obtain ⟨he, -, -⟩ := encodingOf?_of_terms ((terms?_congr hs model).trans ht)
  refine ⟨chunksOf_fst st hs prompt model maxTokens, t.encoding, he, fun hrange => ?_⟩
  have hask := ask_chunkBudget hrange
  refine ⟨_, (chunksOf_fst st hs prompt model maxTokens).trans (split_sentences_eq he hask prompt), ?_, fun hfit => ?_⟩
  · rw [List.flatMap_map]
    simp only [String.toList_ofList]
    exact lines_sentences_iff prompt.toList
  · obtain ⟨c', -, hparagraphs, -⟩ := split_paragraphs_eq he (chunkBudget maxTokens) prompt
    have hk : solid prompt.toList ≠ [] → 0 ≤ (chunkBudget maxTokens).overlapTokens := by
      intro hsolid
      obtain ⟨l, hl⟩ := List.exists_mem_of_ne_nil _ (mt solidLines_eq_nil_iff.1 hsolid)
      have hline := hfit l hl
      exact Budget.overlapTokens_nonneg (show 0 ≤ maxTokens by omega) (show (0 : Datum.Numeric) ≤ 0.1 by decide +kernel)
    rw [hparagraphs (.inr hask), isBlankText_iff]
    refine Iff.trans ?_ (sentences_eq_paragraphs_iff (b := chunkBudget maxTokens)
      (show (0 : Datum.Numeric) < 0.1 by decide +kernel) hk hfit)
    rw [Except.map, Except.ok.injEq, List.map_inj_right fun _ _ => String.ofList_injective]
    exact eq_comm

def geminiServer : Started :=
  { repoPath := "<repo>", model := "gemini-2.5-pro", searchGrounding := true, geminiKey := some "key", openaiKey := none }

/-- Two lines that fit on their own are cut behind the first letter of the second, where chunks between lines keep both
whole. -/
theorem second_line_is_torn :
    (perform (chunksOf "first line\nnext line" "gemini-2.5-pro" 53) { manager := some geminiServer.manager }).1 =
        .ok ["first line\nn", "ext line"] ∧
      (∀ l ∈ solidLines "first line\nnext line".toList, (Tokens.Encoding.cl100k.count l : Int) ≤ 53 - 50) ∧
      ["first line\nn", "ext line"].flatMap (fun chunk => solidLines chunk.toList) ≠
        solidLines "first line\nnext line".toList ∧
      (split .paragraphs (chunkBudget 53) {} "gemini-2.5-pro" "first line\nnext line").map (·.1) ≠
        .ok ["first line\nn", "ext line"] := by
  obtain ⟨hsplit, e, he, hchunks⟩ := server_cuts_between_sentences (s := { manager := some geminiServer.manager })
    geminiServer rfl "first line\nnext line" "gemini-2.5-pro" 53
  have hcl : (managerOf { manager := some geminiServer.manager }).counter.encodingOf? "gemini-2.5-pro" =
      some .cl100k := by decide +kernel
  cases hcl.symm.trans he
  have hrun : ((split .sentences (chunkBudget 53) (managerOf { manager := some geminiServer.manager }).counter
      "gemini-2.5-pro" "first line\nnext line").map (·.1)).toOption = some ["first line\nn", "ext line"] := by
    decide +kernel
  have hgiven := hsplit.trans (eq_ok_of_toOption hrun)
  obtain ⟨chunks, hok, hlines, hsame⟩ := hchunks (by decide +kernel)
  cases hgiven.symm.trans hok
  have hfit : ∀ l ∈ solidLines "first line\nnext line".toList, (Tokens.Encoding.cl100k.count l : Int) ≤ 53 - 50 := by
    decide +kernel
  have hbest : prefixWithin .cl100k (53 - 50) "first line\nnext line".toList = 12 := by decide +kernel
  have hfeed : LastFeed "first line\nnext line".toList 12 10 :=
    ⟨by decide, by decide, by decide, fun q h1 h2 => by
      obtain rfl : q = 11 := by omega
      decide⟩
  have htears : Tears .cl100k (53 - 50) "first line\nnext line".toList :=
    tears_of_lastFeed "first line".toList 'n' "ext line".toList (by decide) (by decide +kernel) (hbest ▸ hfeed) (by decide)
      List.prefix_rfl (by decide) (by decide)
  refine ⟨hgiven, hfit, fun h => (hlines.1 h).1 htears, fun h => ?_⟩
  rcases (hsame hfit).1 h with hblank | hone
  · exact absurd hblank (by decide)
  · exact absurd hone.room (by decide +kernel)

end Server

end IssuePlanner
