import IssuePlanner.Proofs.Model.Course

/-! The usage that earlier calls have left on record. A call in chunks adds it to its own sum where a reply reports no
usage. That can make the call fail, but not through whole numbers: they change the figures of the sum and never its kinds,
and whether adding fails depends on the kinds alone (`addLast_congr`). -/

namespace IssuePlanner

namespace Datum

inductive SumKind where
  | whole
  | real

def SumKind.name : SumKind → String
  | whole => "int"
  | real => "float"

def Numeric.sumKind : Numeric → SumKind
  | .whole _ => .whole
  | .real _ => .real

/-- The kind of a sum once a value is added, or why the value cannot be added. -/
def SumKind.add (k : SumKind) (d : Datum) : Except Failure SumKind :=
  match d.numeric? with
  | some (.whole _) => .ok k
  | some (.real _) => .ok .real
  | none => fault (.badOperands "+=" k.name d.kind)

theorem addTo_toDatum (n : Numeric) (d : Datum) :
    n.toDatum.addTo d = match d.numeric? with
      | some m => .ok (n.add m).toDatum
      | none => fault (.badOperands "+=" n.sumKind.name d.kind) := by
  cases n with
  | whole i =>
    rw [addTo, plus]
    cases d.numeric? <;> rfl
  | real x =>
    rw [addTo, plus]
    cases d.numeric? <;> rfl

/-- Whether a value can be added to a number depends on the kind of the number, and so does the kind of the sum. -/
theorem addTo_cases (n : Numeric) (d : Datum) :
    (∃ m : Numeric, n.toDatum.addTo d = .ok m.toDatum ∧ n.sumKind.add d = .ok m.sumKind) ∨
      ∃ f, n.toDatum.addTo d = .error f ∧ n.sumKind.add d = .error f := by
  rw [addTo_toDatum, SumKind.add]
  cases d.numeric? with
  | none => exact .inr ⟨_, rfl, rfl⟩
  | some m =>
    refine .inl ⟨n.add m, rfl, ?_⟩
    cases m with
    | whole j => cases n <;> rfl
    | real y => cases n <;> rfl

end Datum

namespace Model

open Datum

variable {u v w : Usage} {x y : Option Usage}

abbrev Kinds := SumKind × SumKind × SumKind

/-- The figures of a usage are numbers of these kinds. -/
def Usage.IsSum (u : Usage) (k : Kinds) : Prop :=
  ∃ p c t : Datum.Numeric, u.prompt = p.toDatum ∧ u.completion = c.toDatum ∧ u.total = t.toDatum ∧
    k = (p.sumKind, c.sumKind, t.sumKind)

def Kinds.add (k : Kinds) (w : Usage) : Except Failure Kinds := do
  let p ← k.1.add w.prompt
  let c ← k.2.1.add w.completion
  let t ← k.2.2.add w.total
  return (p, c, t)

theorem Usage.IsSum.add {k : Kinds} (h : u.IsSum k) (w : Usage) :
    (∃ u' k', u.add w = .ok u' ∧ k.add w = .ok k' ∧ u'.IsSum k') ∨ ∃ f, u.add w = .error f ∧ k.add w = .error f := by
  obtain ⟨p, c, t, hp, hc, ht, rfl⟩ := h
  unfold Usage.add Kinds.add
  rw [hp, hc, ht]
  rcases addTo_cases p w.prompt with ⟨p', hp', hkp⟩ | ⟨f, hf, hkf⟩
  · rcases addTo_cases c w.completion with ⟨c', hc', hkc⟩ | ⟨f, hf, hkf⟩
    · rcases addTo_cases t w.total with ⟨t', ht', hkt⟩ | ⟨f, hf, hkf⟩
      · refine .inl ⟨{ u with prompt := p'.toDatum, completion := c'.toDatum, total := t'.toDatum },
          (p'.sumKind, c'.sumKind, t'.sumKind), ?_, ?_, p', c', t', rfl, rfl, rfl, rfl⟩
        · rw [hp', hc', ht']
          rfl
        · rw [hkp, hkc, hkt]
          rfl
      · exact .inr ⟨f, by rw [hp', hc', hf]; rfl, by rw [hkp, hkc, hkf]; rfl⟩
    · exact .inr ⟨f, by rw [hp', hf]; rfl, by rw [hkp, hkf]; rfl⟩
  · exact .inr ⟨f, by rw [hf]; rfl, by rw [hkf]; rfl⟩

/-- The kinds of a sum once the usage on record is added. -/
def Kinds.addLast (k : Kinds) : Option Usage → Except Failure Kinds
  | some w => if w.isPresent then k.add w else .ok k
  | none => .ok k

theorem Usage.IsSum.addLast {k : Kinds} (h : u.IsSum k) (x : Option Usage) :
    (∃ u' k', u.addLast x = .ok u' ∧ k.addLast x = .ok k' ∧ u'.IsSum k') ∨
      ∃ f, u.addLast x = .error f ∧ k.addLast x = .error f := by
  cases x with
  | none => exact .inl ⟨u, k, rfl, rfl, h⟩
  | some w =>
    unfold Usage.addLast Kinds.addLast
    dsimp only
    split
    · exact h.add w
    · exact .inl ⟨u, k, rfl, rfl, h⟩

def Usage.IsWhole (u : Usage) : Prop := ∀ d ∈ [u.prompt, u.completion, u.total], ∃ i, d.numeric? = some (.whole i)

/-- Adding the usage on record cannot fail: there is none that counts, or its figures are whole. -/
def Harmless (x : Option Usage) : Prop := ∀ w, x = some w → w.isPresent = true → w.IsWhole

theorem harmless_none : Harmless none := fun _ h => by cases h

theorem Harmless.addLast (h : Harmless x) (k : Kinds) : k.addLast x = .ok k := by
  cases x with
  | none => rfl
  | some w =>
    unfold Kinds.addLast
    dsimp only
    split
    · next hpresent =>
      have hwhole := h w rfl hpresent
      obtain ⟨i, hi⟩ := hwhole w.prompt (by simp)
      obtain ⟨j, hj⟩ := hwhole w.completion (by simp)
      obtain ⟨l, hl⟩ := hwhole w.total (by simp)
      simp only [Kinds.add, SumKind.add, hi, hj, hl]
      rfl
    · rfl

/-- Two records are the same, or both harmless. -/
def SameEffect (x y : Option Usage) : Prop := x = y ∨ Harmless x ∧ Harmless y

theorem SameEffect.refl (x : Option Usage) : SameEffect x x := .inl rfl

/-- Records with the same effect do the same to sums of the same kinds: both can be added and the kinds agree again, or
neither can, for the same reason. -/
theorem addLast_congr {k : Kinds} (hu : u.IsSum k) (hv : v.IsSum k) (h : SameEffect x y) :
    (∃ u' v' k', u.addLast x = .ok u' ∧ v.addLast y = .ok v' ∧ u'.IsSum k' ∧ v'.IsSum k') ∨
      ∃ f, u.addLast x = .error f ∧ v.addLast y = .error f := by
  have hk : k.addLast x = k.addLast y := by
    rcases h with rfl | ⟨hx, hy⟩
    · rfl
    · rw [hx.addLast, hy.addLast]
  rcases hu.addLast x with ⟨u', k', hu', hku, hsum⟩ | ⟨f, hf, hkf⟩
  · rcases hv.addLast y with ⟨v', l', hv', hkv, hsum'⟩ | ⟨f, hf, hkf⟩
    · rw [hku, hkv] at hk
      cases hk
      exact .inl ⟨u', v', k', hu', hv', hsum, hsum'⟩
    · rw [hku, hkf] at hk
      cases hk
  · rcases hv.addLast y with ⟨v', l', hv', hkv, hsum'⟩ | ⟨f', hf', hkf'⟩
    · rw [hkf, hkv] at hk
      cases hk
    · rw [hkf, hkf'] at hk
      cases hk
      exact .inr ⟨f, hf, hf'⟩

end Model

end IssuePlanner
