import IssuePlanner.Proofs.Tokens.Outlook

/-! A counter remembers the encodings that it has looked up, but no answer shows it. Whatever was asked before, with
success or not, each call gives what it gives on a fresh counter (`answers_eq_fresh`). This holds for every library
of encodings, also when a name is unknown and the default encoding is stored in its place. -/

namespace IssuePlanner.Tokens

inductive Call where
  | count (model : String) (text : List Char)
  | estimate (model : String) (text : List Char)
  | fits (model : String) (text : List Char) (margin : Int)
  | remaining (model : String) (text : List Char) (margin : Int)
  | limit (model : String)

namespace Library

variable {ε : Type} {lib : Library ε} {c c' : Counter ε}

def answer (lib : Library ε) (c : Counter ε) : Call → Except Failure (Datum × Counter ε)
  | .count model text => do
    let p ← lib.tokens c model text
    return (.int p.1, p.2)
  | .estimate model text => do
    let p ← lib.estimate c model text
    return (.int p.1, p.2)
  | .fits model text margin => do
    let p ← lib.fits c model text margin
    return (.bool p.1, p.2)
  | .remaining model text margin => do
    let p ← lib.remaining c model text margin
    return (.int p.1, p.2)
  | .limit model => return (.int (c.limit model), c)

/-- The outcome of a call and the counter afterwards. A call that fails leaves the counter as it was. -/
def step (lib : Library ε) (c : Counter ε) (call : Call) : Except Failure Datum × Counter ε :=
  match lib.answer c call with
  | .ok (d, c') => (.ok d, c')
  | .error f => (.error f, c)

/-- The outcomes of calls that are made one after the other. -/
def answers (lib : Library ε) (c : Counter ε) : List Call → List (Except Failure Datum)
  | [] => []
  | call :: calls => (lib.step c call).1 :: lib.answers (lib.step c call).2 calls

theorem onlyCounts_estimate (lib : Library ε) (model : String) (cs : List Char) :
    lib.OnlyCounts fun c => lib.estimate c model cs :=
  (onlyCounts_tokens lib model cs).after fun n => .ok (Counter.expectedAnswer n)

theorem onlyCounts_remaining (lib : Library ε) (model : String) (cs : List Char) (margin : Int) :
    lib.OnlyCounts fun c => lib.remaining c model cs margin := by
  refine (onlyCounts_tokens lib model cs).bind
    (g := fun n c => .ok (c.limit model - (n + Counter.expectedAnswer n + margin))) ?_
  intro n c c' h
  rw [limit_congr h]

theorem onlyCounts_answer (lib : Library ε) (call : Call) : lib.OnlyCounts fun c => lib.answer c call := by
  cases call with
  | count model text => exact (onlyCounts_tokens lib model text).after fun n => .ok (Datum.int n)
  | estimate model text => exact (onlyCounts_estimate lib model text).after fun n => .ok (Datum.int n)
  | fits model text margin => exact (onlyCounts_fits lib model text margin).after fun b => .ok (Datum.bool b)
  | remaining model text margin => exact (onlyCounts_remaining lib model text margin).after fun n => .ok (Datum.int n)
  | limit model =>
    apply (onlyCounts_pure lib ()).bind (g := fun _ c => .ok (Datum.int (c.limit model)))
    intro _ c c' h
    rw [limit_congr h]

theorem outlook_step (lib : Library ε) (c : Counter ε) (call : Call) :
    lib.outlook (lib.step c call).2 = lib.outlook c := by
  unfold step
  split
  · next d c' h => exact (onlyCounts_answer lib call).keeps h
  · rfl

/-- The outcome of a call depends on how models are read, not on what is remembered. -/
theorem fst_step_congr (h : lib.outlook c = lib.outlook c') (call : Call) :
    (lib.step c call).1 = (lib.step c' call).1 := by
  unfold step
  rcases cases_of_map_fst ((onlyCounts_answer lib call).agrees h) with ⟨f, hc, hc'⟩ | ⟨d, _, _, hc, hc'⟩
  · rw [hc, hc']
  · rw [hc, hc']

/-- The induction is on the calls: the outlook is the same all the way, while the cache grows. -/
theorem answers_eq_map (h : lib.outlook c = lib.outlook c') (calls : List Call) :
    lib.answers c calls = calls.map fun call => (lib.step c' call).1 := by
  induction calls generalizing c with
  | nil => rfl
  | cons call calls ih =>
    have hrest := ih ((lib.outlook_step c call).trans h)
    rw [answers, List.map_cons, fst_step_congr h call, hrest]

/-- Every call in a sequence gives what it gives as the first one. -/
theorem answers_eq_fresh (lib : Library ε) (config : Config) (calls : List Call) :
    lib.answers { config } calls = calls.map fun call => (lib.step { config } call).1 :=
  answers_eq_map rfl calls

-- Two models share an unknown name, and the second reads the default that the first one stored under it.
example : Library.standard.answers
    { config := { encodings := [("a", "spare"), ("b", "spare")], defaultEncoding := "p50k_base" } }
    [.count "a" ['h', 'i'], .count "b" ['h', 'i', '!', '!']] = [.ok (.int 1), .ok (.int 2)] := by
  rfl

end Library

end IssuePlanner.Tokens
