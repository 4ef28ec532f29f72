import IssuePlanner.Proofs.Model.Course
import Mathlib.Algebra.BigOperators.Group.List.Basic

/-! What a call in chunks has used. After each chunk the usage on record counts, and a reply that reports none leaves
the record as it was. So the usage of an earlier chunk, or of an earlier call, counts again for such a reply; a usage
without a positive total does not count at all; and one whose total is positive but which lacks a number ends the call
(`Course.sum_eq`, `foldlM_add_iff`). The sum is what the replies reported if all of them report whole numbers. -/

namespace IssuePlanner.Model

open IssuePlanner.Action

variable {s : Session} {r : Request} {last : Option Usage}

/-! ### Adding up numbers -/

structure Usage.Numeric (u : Usage) : Prop where
  prompt : u.prompt.numeric?.isSome
  completion : u.completion.numeric?.isSome
  total : u.total.numeric?.isSome

theorem addTo_of_isSome {a d : Datum} (ha : a.numeric?.isSome) (hd : d.numeric?.isSome) :
    ∃ c, a.addTo d = .ok c ∧ c.numeric?.isSome := by
  obtain ⟨x, hx⟩ := Option.isSome_iff_exists.1 ha
  obtain ⟨y, hy⟩ := Option.isSome_iff_exists.1 hd
  refine ⟨(x.add y).toDatum, ?_, ?_⟩
  · rw [Datum.addTo, Datum.plus, hx, hy]
  · cases x.add y <;> rfl

theorem isSome_of_addTo {a d c : Datum} (h : a.addTo d = .ok c) : d.numeric?.isSome := by
  unfold Datum.addTo Datum.plus at h
  split at h
  · next hy => rw [hy]; rfl
  · cases h

theorem Usage.add_of_numeric {sum u : Usage} (hsum : sum.Numeric) (hu : u.Numeric) :
    ∃ v, sum.add u = .ok v ∧ v.Numeric := by
  obtain ⟨p, hp, hp'⟩ := addTo_of_isSome hsum.prompt hu.prompt
  obtain ⟨c, hc, hc'⟩ := addTo_of_isSome hsum.completion hu.completion
  obtain ⟨t, ht, ht'⟩ := addTo_of_isSome hsum.total hu.total
  refine ⟨{ sum with prompt := p, completion := c, total := t }, ?_, ⟨hp', hc', ht'⟩⟩
  rw [Usage.add, hp, hc, ht]
  rfl

theorem Usage.numeric_of_add {sum u v : Usage} (h : sum.add u = .ok v) : u.Numeric := by
  unfold Usage.add at h
  cases hp : sum.prompt.addTo u.prompt with
  | error f => rw [hp] at h; cases h
  | ok p =>
    cases hc : sum.completion.addTo u.completion with
    | error f => rw [hp, hc] at h; cases h
    | ok c =>
      cases ht : sum.total.addTo u.total with
      | error f => rw [hp, hc, ht] at h; cases h
      | ok t => exact ⟨isSome_of_addTo hp, isSome_of_addTo hc, isSome_of_addTo ht⟩

/-- Usages can be added up if all their figures are numbers, and only then. -/
theorem foldlM_add_iff {sum : Usage} (hsum : sum.Numeric) (us : List Usage) :
    (∃ total, us.foldlM Usage.add sum = .ok total) ↔ ∀ u ∈ us, u.Numeric := by
  induction us generalizing sum with
  | nil =>
    constructor
    · intro _ u hu
      cases hu
    · exact fun _ => ⟨sum, rfl⟩
  | cons u us ih =>
    rw [List.foldlM_cons, List.forall_mem_cons]
    constructor
    · rintro ⟨total, htotal⟩
      cases hadd : sum.add u with
      | error f => rw [hadd] at htotal; cases htotal
      | ok v =>
        have hu := Usage.numeric_of_add hadd
        obtain ⟨w, hw, hnumeric⟩ := Usage.add_of_numeric hsum hu
        rw [hadd] at hw htotal
        cases hw
        exact ⟨hu, (ih hnumeric).1 ⟨total, htotal⟩⟩
    · rintro ⟨hu, hus⟩
      obtain ⟨v, hv, hnumeric⟩ := Usage.add_of_numeric hsum hu
      rw [hv]
      exact (ih hnumeric).2 hus

/-! ### Turns -/

/-- The replies to one request: those that were followed by another try, and the answer. -/
structure Turn where
  tries : List Reply
  answer : Datum

namespace Turn

variable {t : Turn}

def replies (t : Turn) : List Reply := t.tries ++ [.answer t.answer]

/-- The answer can be read, and it comes in time. -/
structure Settles (r : Request) (t : Turn) : Prop where
  few : t.tries.length < 5
  failed : ∀ reply ∈ t.tries, Retryable (r.outcome [reply])
  readable : ∃ content, r.readAnswer t.answer = .ok content

theorem outcome_cons (r : Request) (reply : Reply) (rest : List Reply) :
    r.outcome (reply :: rest) = r.outcome [reply] := by
  cases reply <;> rfl

theorem outcomes_answer (r : Request) (t : Turn) (more : List Reply) :
    r.outcomes (t.replies ++ more) t.tries.length = r.readAnswer t.answer := by
  rw [Request.outcomes, replies, List.append_assoc, List.drop_left]
  rfl

theorem Settles.retryable (h : t.Settles r) (more : List Reply) {i : Nat} (hi : i < t.tries.length) :
    Retryable (r.outcomes (t.replies ++ more) i) := by
  rw [Request.outcomes, replies, List.append_assoc, List.drop_append_of_le_length hi.le,
    List.drop_eq_getElem_cons hi, List.cons_append, outcome_cons]
  exact h.failed _ (List.getElem_mem hi)

theorem Settles.tried_eq (h : t.Settles r) {more : List Reply} {k : Nat}
    (hk : Tried 5 (r.outcomes (t.replies ++ more)) k) : k = t.tries.length + 1 := by
  obtain ⟨content, hread⟩ := h.readable
  have hstop : ¬ Retryable (r.outcomes (t.replies ++ more) t.tries.length) := by
    rw [outcomes_answer, hread]
    exact not_retryable_ok content
  have hle : k ≤ t.tries.length + 1 := by
    by_contra hlt
    exact hstop (hk.retried t.tries.length (by omega))
  -- an earlier end would be a failure that is not worth another try, or the fifth attempt
  by_contra hne
  have hlt : k - 1 < t.tries.length := by have := hk.pos; omega
  rcases hk.ended with hlimit | hended
  · have := h.few
    omega
  · exact hended (h.retryable more hlt)

theorem Settles.processed_eq {q : Sent} {b : Books} {more : List Reply} {k : Nat} {evs : List Event}
    (h : t.Settles r) (hk : Exchange q (r.processed b (t.replies ++ more)) k evs) :
    (t.replies ++ more).drop k = more ∧
      ∃ content, r.processed b (t.replies ++ more) (k - 1) = (b.enter r t.replies).map (content, ·) := by
  obtain rfl := h.tried_eq (hk.tried.congr fun i => (retryable_processed b _ i).symm)
  obtain ⟨content, hread⟩ := h.readable
  have hlength : t.replies.length = t.tries.length + 1 := by simp [replies]
  refine ⟨List.drop_left' hlength, content, ?_⟩
  rw [Nat.add_sub_cancel, Request.processed, outcomes_answer, hread, List.take_left' hlength]

end Turn

/-! ### The usages that count -/

/-- The usages that count: after each turn the one on record, if it is worth reporting. -/
def counted (r : Request) : Option Usage → List Turn → List Usage
  | _, [] => []
  | last, t :: ts =>
    let last := t.replies.foldl r.recorded last
    (last.filter Usage.isPresent).toList ++ counted r last ts

theorem addLast_eq_foldlM (sum : Usage) (last : Option Usage) :
    sum.addLast last = (last.filter Usage.isPresent).toList.foldlM Usage.add sum := by
  cases last with
  | none => rfl
  | some u =>
    rw [Usage.addLast, Option.filter_some]
    split_ifs
    · rw [Option.toList_some, List.foldlM_cons]
      cases sum.add u <;> rfl
    · rfl

theorem foldlM_counted_cons (b : Books) (t : Turn) (ts : List Turn) :
    (counted r b.last (t :: ts)).foldlM Usage.add b.sum =
      (b.enter r t.replies).bind fun b' => (counted r b'.last ts).foldlM Usage.add b'.sum := by
  rw [counted, List.foldlM_append, ← addLast_eq_foldlM, Books.enter]
  cases b.sum.addLast (t.replies.foldl r.recorded b.last) <;> rfl

theorem Course.sum_eq {n i : Nat} {b : Books} {replies later : List Reply} {chunks : List String} {evs : List Event}
    {out : Except Failure (List Datum × Usage)} (h : Course r n i b replies chunks evs out) {turns : List Turn}
    (hlength : turns.length = chunks.length) (hreplies : replies = turns.flatMap Turn.replies ++ later)
    (hsettles : ∀ t ∈ turns, t.Settles r) :
    out.map (·.2) = (counted r b.last turns).foldlM Usage.add b.sum := by
  induction h generalizing turns with
  | done =>
    obtain rfl := List.length_eq_zero_iff.1 hlength
    rfl
  | failed hexchange hout =>
    obtain ⟨t, ts, rfl⟩ := List.exists_of_length_succ _ hlength
    rw [List.flatMap_cons, List.append_assoc] at hreplies
    subst hreplies
    obtain ⟨-, content, hprocessed⟩ := (hsettles t (by simp)).processed_eq hexchange
    rw [hprocessed] at hout
    rw [foldlM_counted_cons]
    cases henter : Books.enter _ r t.replies with
    | ok b' => rw [henter] at hout; cases hout
    | error f => rw [henter] at hout; cases hout; rfl
  | @next i k b b' replies chunk rest evs evs' answer out hexchange hout _ ih =>
    obtain ⟨t, ts, rfl⟩ := List.exists_of_length_succ _ hlength
    rw [List.flatMap_cons, List.append_assoc] at hreplies
    subst hreplies
    obtain ⟨hdrop, content, hprocessed⟩ := (hsettles t (by simp)).processed_eq hexchange
    rw [hprocessed] at hout
    rw [foldlM_counted_cons]
    cases henter : b.enter r t.replies with
    | error f => rw [henter] at hout; cases hout
    | ok b₁ =>
      rw [henter] at hout
      cases hout
      have hrest := ih (by simpa using hlength) hdrop fun u hu => hsettles u (by simp [hu])
      cases out with
      | error f => exact hrest
      | ok p => exact hrest

/-! ### Reports -/

def Request.report? (r : Request) (reply : Datum) : Option Usage :=
  Reply.usage? (if isOpenai r.model then "usage" else "usage_metadata") reply

/-- The sum of a figure over the replies of some turns. A figure that is missing or no whole number counts as zero. -/
def reportedSum (r : Request) (figure : Usage → Datum) (turns : List Turn) : Int :=
  (turns.map fun t => Tokens.wholeOr 0 ((r.report? t.answer).map figure)).sum

/-- Three whole numbers, of which the total is positive unless nothing was used. -/
def Usage.Sound (u : Usage) : Prop :=
  ∃ p c t, u.prompt = .int p ∧ u.completion = .int c ∧ u.total = .int t ∧ (0 < t ∨ p = 0 ∧ c = 0 ∧ t = 0)

/-- An answer that can be read puts its usage on record, if it reports one. -/
theorem recorded_answer {d : Datum} (h : ∃ content, r.readAnswer d = .ok content) :
    r.recorded last (.answer d) = (r.report? d).or last := by
  unfold Request.recorded Request.report?
  cases hr : isOpenai r.model with
  | false => rfl
  | true =>
    obtain ⟨content, hread⟩ := h
    rw [Request.readAnswer, if_pos hr] at hread
    simp only [if_true]
    cases htext : Reply.openaiText d with
    | ok text => rfl
    | error f => rw [htext] at hread; cases hread

theorem isPositive_int (i : Int) : (Datum.int i).isPositive = decide (0 < i) := by
  have hlt : (0 : Datum.Numeric) < .whole i ↔ 0 < i := by
    show some (compare 0 i) = some .lt ↔ 0 < i
    rw [Option.some.injEq, compare_lt_iff_lt]
  exact decide_eq_decide.2 hlt

theorem addLast_of_sound {u : Usage} (hu : u.Sound) (p c t : Int) (model : Datum) :
    Usage.addLast ⟨.int p, .int c, .int t, model⟩ (some u) = .ok
      ⟨.int (p + Tokens.wholeOr 0 (some u.prompt)), .int (c + Tokens.wholeOr 0 (some u.completion)),
        .int (t + Tokens.wholeOr 0 (some u.total)), model⟩ := by
  obtain ⟨p', c', t', hp, hc, ht, hsound⟩ := hu
  rw [Usage.addLast, Usage.isPresent, Usage.add, hp, hc, ht]
  rw [isPositive_int]
  rcases hsound with hpos | ⟨rfl, rfl, rfl⟩
  · rw [decide_eq_true hpos]
    rfl
  · simp [Tokens.wholeOr]

theorem foldlM_counted_of_sound {turns : List Turn} (hsettles : ∀ t ∈ turns, t.Settles r)
    (hsound : ∀ t ∈ turns, ∃ u, r.report? t.answer = some u ∧ u.Sound) (last : Option Usage) (p c t : Int)
    (model : Datum) :
    (counted r last turns).foldlM Usage.add ⟨.int p, .int c, .int t, model⟩ = .ok
      ⟨.int (p + reportedSum r Usage.prompt turns), .int (c + reportedSum r Usage.completion turns),
        .int (t + reportedSum r Usage.total turns), model⟩ := by
  induction turns generalizing last p c t with
  | nil => simp [counted, reportedSum, pure, Except.pure]
  | cons turn ts ih =>
    obtain ⟨u, hreport, hu⟩ := hsound turn (by simp)
    have hlast : turn.replies.foldl r.recorded last = some u := by
      rw [Turn.replies, List.foldl_append, List.foldl_cons, List.foldl_nil,
        recorded_answer (hsettles turn (by simp)).readable, hreport, Option.some_or]
    rw [counted, hlast, List.foldlM_append, ← addLast_eq_foldlM, addLast_of_sound hu]
    show (counted r (some u) ts).foldlM Usage.add _ = _
    rw [ih (fun v hv => hsettles v (by simp [hv])) fun v hv => hsound v (by simp [hv])]
    simp only [reportedSum, List.map_cons, List.sum_cons, hreport, Option.map_some, add_assoc]

/-! ### Calls in chunks -/

/-- What a call in chunks puts on record when every chunk is answered, whatever the manager did before. After each chunk
the usage on record counts if its total is positive. The call succeeds exactly if all figures that count are numbers,
and the sum of them is on record then. Where each answer reports whole numbers, with a positive total unless nothing was
used, the sum is that of the reports. -/
theorem usage_callInChunks {chunks : List String} {turns : List Turn} {later : List Reply} (hs : Serves s r.model)
    (hcut : (managerOf s).cut r = .ok chunks) (hlength : turns.length = chunks.length)
    (hreplies : s.replies = turns.flatMap Turn.replies ++ later) (hsettles : ∀ t ∈ turns, t.Settles r) :
    ∃ s' out, perform (callInChunks r) s = (out, s') ∧
      ((∃ answer, out = .ok answer) ↔ ∀ u ∈ counted r (managerOf s).lastUsage turns, u.Numeric) ∧
      (∀ f, out = .error f ↔ (counted r (managerOf s).lastUsage turns).foldlM Usage.add {} = .error f) ∧
      (∀ total, (counted r (managerOf s).lastUsage turns).foldlM Usage.add {} = .ok total →
        (managerOf s').lastUsage = some total) ∧
      ((∀ t ∈ turns, ∃ u, r.report? t.answer = some u ∧ u.Sound) →
        (managerOf s').lastUsage = some
          { prompt := .int (reportedSum r Usage.prompt turns)
            completion := .int (reportedSum r Usage.completion turns)
            total := .int (reportedSum r Usage.total turns) }) := by
  obtain ⟨s₁, -, hheard, hrun⟩ := perform_callInChunks_cut r s
  rw [hcut, andThen_ok] at hrun
  obtain ⟨text, course, outs, s', hsend, -, hcourse, hrecord⟩ := perform_sendChunks (hs.heard hheard) chunks
  have hreplies₁ : s₁.replies = turns.flatMap Turn.replies ++ later := hheard.replies.trans hreplies
  have hlast : (managerOf s₁).lastUsage = (managerOf s).lastUsage := hheard.usage
  have hsum := hcourse.sum_eq hlength hreplies₁ hsettles
  rw [hlast] at hsum
  have hempty : Usage.Numeric {} := ⟨rfl, rfl, rfl⟩
  have hadd := foldlM_add_iff hempty (counted r (managerOf s).lastUsage turns)
  have hexact (h : ∀ t ∈ turns, ∃ u, r.report? t.answer = some u ∧ u.Sound) :=
    foldlM_counted_of_sound hsettles h (managerOf s).lastUsage 0 0 0 .null
  simp only [zero_add] at hexact
  refine ⟨s', _, hrun.trans hsend, ?_⟩
  cases outs with
  | error f =>
    have hfold : (counted r (managerOf s).lastUsage turns).foldlM Usage.add {} = .error f := hsum.symm
    rw [← hadd, hfold]
    refine ⟨?_, ?_, ?_, fun h => ?_⟩
    · exact iff_of_false (fun ⟨_, h⟩ => by cases h) (fun ⟨_, h⟩ => by cases h)
    · exact fun g => ⟨fun h => by cases h; rfl, fun h => by cases h; rfl⟩
    · exact fun _ h => by cases h
    · cases hfold.symm.trans (hexact h)
  | ok p =>
    have hfold : (counted r (managerOf s).lastUsage turns).foldlM Usage.add {} = .ok p.2 := hsum.symm
    have husage := hrecord p rfl
    rw [← hadd, hfold]
    refine ⟨?_, ?_, ?_, fun h => ?_⟩
    · exact iff_of_true ⟨_, rfl⟩ ⟨_, rfl⟩
    · exact fun g => ⟨fun h => (by cases h), fun h => (by cases h)⟩
    · rintro _ ⟨⟩
      exact husage
    · rw [husage]
      exact congrArg some (Except.ok.inj (hfold.symm.trans (hexact h)))

/-- Two answers of which only the first tells what it used. -/
def quietTurns : List Turn :=
  [⟨[], .record [("output_text", .text "A"), ("usage", .record [("input_tokens", .int 10),
     ("output_tokens", .int 5), ("total_tokens", .int 15)])]⟩,
   ⟨[], .record [("output_text", .text "B")]⟩]

def quietSession : Session := { manager := some narrowManager, replies := quietTurns.flatMap Turn.replies }

/-- An answer that reports nothing counts for what the answer before it used. -/
theorem usage_counts_twice :
    reportedSum pairRequest Usage.total quietTurns = 15 ∧
      (managerOf (perform (callInChunks pairRequest) quietSession).2).lastUsage =
        some { prompt := .int 20, completion := .int 10, total := .int 30 } := by
  have hs : Serves quietSession pairRequest.model := by decide +kernel
  have hcut : (managerOf quietSession).cut pairRequest = .ok ["ab.", "cd."] := eq_ok_of_toOption (by decide +kernel)
  have hreplies : quietSession.replies = quietTurns.flatMap Turn.replies ++ [] := (List.append_nil _).symm
  have hsettles : ∀ t ∈ quietTurns, t.Settles pairRequest := by
    intro t ht
    rcases List.mem_pair.1 ht with rfl | rfl
    · exact ⟨by decide, fun _ h => (by cases h), .text "A", rfl⟩
    · exact ⟨by decide, fun _ h => (by cases h), .text "B", rfl⟩
  obtain ⟨s', out, hrun, -, -, htotal, -⟩ := usage_callInChunks hs hcut rfl hreplies hsettles
  rw [hrun]
  exact ⟨by decide +kernel, htotal _ rfl⟩

end IssuePlanner.Model
