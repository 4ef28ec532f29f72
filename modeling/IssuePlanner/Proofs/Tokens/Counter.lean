import IssuePlanner.Proofs.Tokens.Count
import IssuePlanner.Tokens.Counter

/-! Counting with a counter that remembers. Whatever is counted for a model, the counter keeps its
configuration and goes on using the same encoding (`count_of_encoding`, `fits_of_encoding`). -/

namespace IssuePlanner.Tokens

theorem Library.encoding_cases {ε : Type} {lib : Library ε} {c c' : Counter ε} {model : String} {e : ε}
    (h : lib.encoding c model = .ok (e, c')) :
    c' = c ∨ c.cache.find? (·.1 == c.encodingName model) = none ∧
      c' = { c with cache := c.cache ++ [(c.encodingName model, e)] } := by
  unfold encoding at h
  split at h
  · cases h
    exact .inl rfl
  · next hnone =>
    refine .inr ⟨hnone, ?_⟩
    cases hresolve : lib.resolve c.config (c.encodingName model) with
    | error f =>
      rw [hresolve] at h
      cases h
    | ok e' =>
      rw [hresolve] at h
      cases h
      rfl

namespace Counter

variable {c c' : Counter} {model : String} {e : Encoding}

/-- The encoding that a counter uses for a model, if there is one. -/
def encodingOf? (c : Counter) (model : String) : Option Encoding := (c.encoding model).toOption.map (·.1)

/-- The counters agree in all that counting for a model depends on. -/
structure Agrees (model : String) (c c' : Counter) : Prop where
  config : c'.config = c.config
  encoding : c'.encodingOf? model = c.encodingOf? model

theorem Agrees.refl (model : String) (c : Counter) : Agrees model c c := ⟨rfl, rfl⟩

theorem Agrees.limit (h : Agrees model c c') : c'.limit model = c.limit model := by
  unfold Counter.limit
  rw [h.config]

theorem encodingOf?_of_ok (h : c.encoding model = .ok (e, c')) : c.encodingOf? model = some e := by
  rw [encodingOf?, h]
  rfl

theorem agrees_of_encoding (h : c.encoding model = .ok (e, c')) : Agrees model c c' := by
  rcases Library.encoding_cases h with rfl | ⟨hnone, rfl⟩
  · exact .refl model c'
  · have hname : encodingName { c with cache := c.cache ++ [(c.encodingName model, e)] } model
        = c.encodingName model := rfl
    have hagain : encoding { c with cache := c.cache ++ [(c.encodingName model, e)] } model
        = .ok (e, { c with cache := c.cache ++ [(c.encodingName model, e)] }) := by
      unfold encoding Library.encoding
      simp only [hname, List.find?_append, hnone]
      simp
    exact ⟨rfl, (encodingOf?_of_ok hagain).trans (encodingOf?_of_ok h).symm⟩

theorem encoding_of_encodingOf? (h : c.encodingOf? model = some e) :
    ∃ c', c.encoding model = .ok (e, c') ∧ Agrees model c c' := by
  cases henc : c.encoding model with
  | error f =>
    rw [encodingOf?, henc] at h
    cases h
  | ok p =>
    obtain ⟨e', c'⟩ := p
    rw [encodingOf?_of_ok henc] at h
    cases h
    exact ⟨c', rfl, agrees_of_encoding henc⟩

theorem encoding_of_none (h : c.encodingOf? model = none) : ∃ f, c.encoding model = .error f := by
  cases henc : c.encoding model with
  | error f => exact ⟨f, rfl⟩
  | ok p =>
    rw [encodingOf?, henc] at h
    cases h

theorem count_of_encoding (h : c.encodingOf? model = some e) (cs : List Char) :
    ∃ c', c.count model cs = .ok (e.count cs, c') ∧ Agrees model c c' := by
  cases cs with
  | nil => exact ⟨c, by rw [Encoding.count_nil]; rfl, .refl model c⟩
  | cons a as =>
    obtain ⟨c', henc, hagree⟩ := encoding_of_encodingOf? h
    refine ⟨c', ?_, hagree⟩
    rw [encoding] at henc
    rw [count, Library.tokens, henc]
    rfl

/-- Counting the tokens of a text for a model gives at most a limit. -/
def Within (c : Counter) (model : String) (limit : Int) (text : String) : Prop :=
  ∃ n d, c.count model text.toList = .ok (n, d) ∧ (n : Int) ≤ limit

theorem within_iff (h : c.encodingOf? model = some e) (limit : Int) (text : String) :
    c.Within model limit text ↔ (e.count text.toList : Int) ≤ limit := by
  obtain ⟨d, hcount, -⟩ := count_of_encoding h text.toList
  constructor
  · rintro ⟨n, d', hn, hle⟩
    rw [hcount] at hn
    cases hn
    exact hle
  · exact fun hle => ⟨e.count text.toList, d, hcount, hle⟩

theorem count_of_none (h : c.encodingOf? model = none) {cs : List Char} (hcs : cs ≠ []) :
    ∃ f, c.count model cs = .error f := by
  obtain ⟨f, hf⟩ := encoding_of_none h
  refine ⟨f, ?_⟩
  rw [encoding] at hf
  rw [count, Library.tokens, if_neg (by simpa using hcs), hf]
  rfl

theorem fits_of_encoding (h : c.encodingOf? model = some e) (cs : List Char) (margin : Int) :
    ∃ c', c.fits model cs margin =
        .ok (decide (e.count cs + expectedAnswer (e.count cs) + margin ≤ c.limit model), c') ∧
      Agrees model c c' := by
  obtain ⟨c', hcount, hagree⟩ := count_of_encoding h cs
  refine ⟨c', ?_, hagree⟩
  rw [count] at hcount
  rw [fits, Library.fits, hcount, ← hagree.limit]
  rfl

theorem fits_of_none (h : c.encodingOf? model = none) {cs : List Char} (hcs : cs ≠ []) (margin : Int) :
    ∃ f, c.fits model cs margin = .error f := by
  obtain ⟨f, hf⟩ := count_of_none h hcs
  refine ⟨f, ?_⟩
  rw [count] at hf
  rw [fits, Library.fits, hf]
  rfl

end Counter

end IssuePlanner.Tokens
