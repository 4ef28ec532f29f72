import IssuePlanner.Chunk.Paragraphs
import IssuePlanner.Proofs.Tokens.Counter

/-! What a counter makes of models. A counter remembers the encodings that it has looked up, but that does not change how
it reads any model. Computations that only count keep the outlook of a counter, and what they give depends on nothing
else (`OnlyCounts`). -/

namespace IssuePlanner

theorem cases_of_map_fst {α β : Type} {x y : Except Failure (α × β)} (h : x.map Prod.fst = y.map Prod.fst) :
    (∃ e, x = .error e ∧ y = .error e) ∨ ∃ a b b', x = .ok (a, b) ∧ y = .ok (a, b') := by
  cases x with
  | error e =>
    cases y with
    | error e' =>
      cases h
      exact .inl ⟨e, rfl, rfl⟩
    | ok q => cases h
  | ok p =>
    cases y with
    | error e' => cases h
    | ok q =>
      have hfst : p.1 = q.1 := Except.ok.inj h
      exact .inr ⟨p.1, p.2, q.2, rfl, by rw [hfst]⟩

namespace Tokens

namespace Library

variable {ε α β : Type} {lib : Library ε} {c c' : Counter ε} {model : String} {e : ε}

theorem encoding_eq (lib : Library ε) (c : Counter ε) (model : String) :
    lib.encoding c model = match c.cache.find? (·.1 == c.encodingName model) with
      | some p => .ok (p.2, c)
      | none => (lib.resolve c.config (c.encodingName model)).map fun e =>
          (e, { c with cache := c.cache ++ [(c.encodingName model, e)] }) := by
  unfold encoding
  split
  · next p hp => rw [hp]
  · next hp =>
    rw [hp]
    cases lib.resolve c.config (c.encodingName model) <;> rfl

/-- How a counter reads a model: the encoding, or why there is none. -/
def reading (lib : Library ε) (c : Counter ε) (model : String) : Except Failure ε :=
  (lib.encoding c model).map Prod.fst

def outlook (lib : Library ε) (c : Counter ε) : Config × (String → Except Failure ε) := (c.config, lib.reading c)

theorem reading_eq (lib : Library ε) (c : Counter ε) (model : String) :
    lib.reading c model = match c.cache.find? (·.1 == c.encodingName model) with
      | some p => .ok p.2
      | none => lib.resolve c.config (c.encodingName model) := by
  rw [reading, encoding_eq]
  split
  · rfl
  · cases lib.resolve c.config (c.encodingName model) <;> rfl

theorem outlook_of_encoding (h : lib.encoding c model = .ok (e, c')) : lib.outlook c' = lib.outlook c := by
  rcases encoding_cases h with rfl | ⟨hnone, rfl⟩
  · rfl
  · have hresolve : lib.resolve c.config (c.encodingName model) = .ok e := by
      have hreading : lib.reading c model = .ok e := by rw [reading, h]; rfl
      rwa [reading_eq, hnone] at hreading
    refine Prod.ext rfl (funext fun model' => ?_)
    have hname : Counter.encodingName { c with cache := c.cache ++ [(c.encodingName model, e)] } model' =
        c.encodingName model' := rfl
    show lib.reading { c with cache := c.cache ++ [(c.encodingName model, e)] } model' = lib.reading c model'
    rw [reading_eq, reading_eq, hname, List.find?_append]
    cases hfound : c.cache.find? (·.1 == c.encodingName model') with
    | some p => rfl
    | none =>
      -- a model of the same name reads what was just stored, which is what it would have looked up
      by_cases hsame : c.encodingName model = c.encodingName model'
      · simp [← hsame, hresolve]
      · simp [hsame]

theorem limit_congr (h : lib.outlook c = lib.outlook c') (model : String) : c.limit model = c'.limit model := by
  unfold Counter.limit
  rw [show c.config = c'.config from congrArg Prod.fst h]

/-- A computation only counts: it keeps the outlook of a counter, and gives the same with the same outlook. -/
structure OnlyCounts (lib : Library ε) (f : Counter ε → Except Failure (α × Counter ε)) : Prop where
  keeps : ∀ {c a d}, f c = .ok (a, d) → lib.outlook d = lib.outlook c
  agrees : ∀ {c c'}, lib.outlook c = lib.outlook c' → (f c).map Prod.fst = (f c').map Prod.fst

theorem onlyCounts_encoding (lib : Library ε) (model : String) : lib.OnlyCounts fun c => lib.encoding c model where
  keeps h := outlook_of_encoding h
  agrees h := congrFun (congrArg Prod.snd h) model

theorem OnlyCounts.bind {f : Counter ε → Except Failure (α × Counter ε)} (hf : lib.OnlyCounts f)
    {g : α → Counter ε → Except Failure β}
    (hg : ∀ {a c c'}, lib.outlook c = lib.outlook c' → g a c = g a c') :
    lib.OnlyCounts fun c => do
      let p ← f c
      let b ← g p.1 p.2
      return (b, p.2) where
  keeps := by
    intro c b d h
    cases hc : f c with
    | error e =>
      rw [hc] at h
      cases h
    | ok p =>
      rw [hc] at h
      change (do let b ← g p.1 p.2; return (b, p.2)) = Except.ok (b, d) at h
      cases hb : g p.1 p.2 with
      | error e =>
        rw [hb] at h
        cases h
      | ok b' =>
        rw [hb] at h
        cases h
        exact hf.keeps hc
  agrees := by
    intro c c' h
    rcases cases_of_map_fst (hf.agrees h) with ⟨e, hc, hc'⟩ | ⟨a, d, d', hc, hc'⟩
    · rw [hc, hc']
    · have houtlook : lib.outlook d = lib.outlook d' := (hf.keeps hc).trans (h.trans (hf.keeps hc').symm)
      rw [hc, hc']
      change Except.map Prod.fst (do let b ← g a d; return (b, d)) =
        Except.map Prod.fst (do let b ← g a d'; return (b, d'))
      rw [hg houtlook]
      cases g a d' <;> rfl

theorem OnlyCounts.after {f : Counter ε → Except Failure (α × Counter ε)} (hf : lib.OnlyCounts f)
    (g : α → Except Failure β) :
    lib.OnlyCounts fun c => do
      let p ← f c
      let b ← g p.1
      return (b, p.2) :=
  hf.bind (g := fun a _ => g a) fun _ => rfl

theorem OnlyCounts.ite {P : Prop} [Decidable P] {f g : Counter ε → Except Failure (α × Counter ε)}
    (hf : lib.OnlyCounts f) (hg : lib.OnlyCounts g) : lib.OnlyCounts fun c => if P then f c else g c := by
  split
  · exact hf
  · exact hg

theorem OnlyCounts.unless {f : Counter ε → Except Failure (α × Counter ε)} (hf : lib.OnlyCounts f)
    (x : Except Failure Unit) : lib.OnlyCounts fun c => x >>= fun _ => f c := by
  cases x with
  | error e => exact ⟨fun h => (by cases h), fun _ => rfl⟩
  | ok _ => exact hf

theorem onlyCounts_pure (lib : Library ε) (a : α) : lib.OnlyCounts fun c => .ok (a, c) where
  keeps h := by cases h; rfl
  agrees _ := rfl

theorem onlyCounts_tokens (lib : Library ε) (model : String) (cs : List Char) :
    lib.OnlyCounts fun c => lib.tokens c model cs :=
  .ite (onlyCounts_pure lib 0) ((onlyCounts_encoding lib model).after fun e => .ok (lib.count e cs))

theorem onlyCounts_fits (lib : Library ε) (model : String) (cs : List Char) (margin : Int) :
    lib.OnlyCounts fun c => lib.fits c model cs margin := by
  refine (onlyCounts_tokens lib model cs).bind
    (g := fun n c => .ok (decide (n + Counter.expectedAnswer n + margin ≤ c.limit model))) ?_
  intro n c c' h
  rw [limit_congr h]

end Library

namespace Counter

variable {α : Type}

/-- How a counter reads a model with the four encodings. -/
def reading (c : Counter) (model : String) : Except Failure Encoding := Library.standard.reading c model

/-- All that counting with the four encodings depends on. -/
def outlook (c : Counter) : Config × (String → Except Failure Encoding) := Library.standard.outlook c

abbrev OnlyCounts (f : Counter → Except Failure (α × Counter)) : Prop := Library.standard.OnlyCounts f

theorem onlyCounts_split (strategy : Chunk.Strategy) (b : Chunk.Budget) (model text : String) :
    OnlyCounts fun c => Chunk.split strategy b c model text :=
  .ite (Library.onlyCounts_pure _ [])
    (((Library.onlyCounts_encoding _ model).after fun e => Chunk.cutOrFail strategy e b text.toList).unless _)

end Counter

end Tokens

end IssuePlanner
